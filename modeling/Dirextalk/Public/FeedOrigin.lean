import Dirextalk.Domain.Text
import Dirextalk.Lib.Ipv4
import Dirextalk.Wire.CanonicalCbor
import Mathlib.Data.List.DropRight

/-!
# Feed origins

A live public descriptor names the origin of its feed: an HTTPS origin with a canonical
DNS host, which is meant to be no numeric host in any client's eyes.  The check reads a
part `0x` without digits as a name, while the URL standard reads it as zero.
-/

namespace Dirextalk.Public

open Domain Lib Wire

def maxFeedEndpointBytes : Nat := 512

/-- Fixed public feed document root. -/
def publicFeedWellKnownPathPrefix : String := "/.well-known/dirextalk/public/v1/"

/-! ## Origins -/

variable (mark : Char) (text : List Char)

/-- `text.split_once(mark)`. -/
def splitOnce : Option (List Char × List Char) :=
  if mark ∈ text then some (text.takeWhile (· ≠ mark), (text.dropWhile (· ≠ mark)).drop 1)
  else none

/-- `text.strip_suffix(mark).unwrap_or(text)`. -/
def withoutSuffix : List Char :=
  if text.getLast? = some mark then text.dropLast else text

/-- The authority of an origin without a path. -/
def feedOriginAuthority (value : String) : Option (List Char) :=
  if value.utf8ByteSize > maxFeedEndpointBytes || !(textBytes value).all (· < 0x80) ||
      !"https://".toList.isPrefixOf value.toList ||
      value.toList.any (fun character => ['@', '?', '#', '\\'].contains character) ||
      !(textBytes value).all (fun byte => 0x21 ≤ byte && byte ≤ 0x7e) then none
  else
    let authority := withoutSuffix '/' (value.toList.drop 8)
    if authority ≠ [] ∧ '/' ∉ authority then some authority else none

def looksLikeWhatwgIpv4Part (part : List Char) : Bool :=
  !part.isEmpty && (part.all Char.isDigit ||
    (part.dropPrefix? ['0', 'x']).any fun hex =>
      !hex.isEmpty && hex.all fun digit => digit.isDigit || ('a' ≤ digit && digit ≤ 'f'))

/-- Hosts that a browser reads as an address. -/
def looksLikeWhatwgIpv4Host (host : List Char) : Bool :=
  (host.splitOn '.').all looksLikeWhatwgIpv4Part

/-- Lower-case letters, digits and inner hyphens. -/
def validCanonicalDnsLabel (label : List Char) : Bool :=
  !label.isEmpty && label.length ≤ 63 && label.head? ≠ some '-' && label.getLast? ≠ some '-' &&
    label.all fun character => character.isLower || character.isDigit || character = '-'

/-- A host with a letter that is no address. -/
def validCanonicalDnsHost (host : List Char) : Bool :=
  !host.isEmpty && host.length ≤ 253 && host.getLast? ≠ some '.' && host.any Char.isLower &&
    !looksLikeWhatwgIpv4Host host && (host.splitOn '.').all validCanonicalDnsLabel

/-- The number that decimal digits denote. -/
def decimal (digits : List Char) : Nat :=
  digits.foldl (fun number digit => 10 * number + (digit.toNat - '0'.toNat)) 0

/-- A port other than the default. -/
def validCanonicalDnsPort (port : List Char) : Bool :=
  !port.isEmpty && port.head? ≠ some '0' && port.all Char.isDigit &&
    decimal port < UInt16.size && decimal port ≠ 0 && decimal port ≠ 443

/-- The host of an authority. -/
def authorityHost (authority : List Char) : List Char :=
  ((splitOnce ':' authority).map (·.1)).getD authority

def validCanonicalDnsAuthority (authority : List Char) : Bool :=
  if authority.contains '[' || authority.contains ']' || authority.count ':' > 1 then false
  else
    validCanonicalDnsHost (authorityHost authority) &&
      ((splitOnce ':' authority).map (·.2)).all validCanonicalDnsPort

/-- One canonical lower-case ASCII DNS origin. -/
def validPublicFeedOrigin (value : String) : Bool :=
  (feedOriginAuthority value).any validCanonicalDnsAuthority

/-! ## Descriptors -/

/-- Mutable public content of a descriptor, of the current and of the frozen wire lines. -/
inductive PublicDescriptorPayloadV1 where
  | channel (feedOrigin : String) (capabilityDigest : FixedBytes 32)
  | agent (feedOrigin : String) (capabilityDigest manifestDigest : FixedBytes 32)
  | tombstone
  | legacyChannelV10 (feedEndpoint : String) (capabilityDigest : FixedBytes 32)
  | legacyAgentV10 (feedEndpoint : String) (capabilityDigest manifestDigest : FixedBytes 32)
  | legacyChannelV11 (feedOrigin : String) (capabilityDigest : FixedBytes 32)
  | legacyAgentV11 (feedOrigin : String) (capabilityDigest manifestDigest : FixedBytes 32)

def PublicDescriptorPayloadV1.feedOrigin : PublicDescriptorPayloadV1 → Option String
  | channel feedOrigin _ | agent feedOrigin _ _ => some feedOrigin
  | tombstone | legacyChannelV10 _ _ | legacyAgentV10 _ _ _ | legacyChannelV11 _ _
  | legacyAgentV11 _ _ _ => none

/-- `text.trim_end_matches(mark)`. -/
def trimEndMatches : List Char := text.rdropWhile (· = mark)

/-- The feed URL of a live descriptor. -/
def publicFeedUrl (payload : PublicDescriptorPayloadV1) (subjectId : PublicSubjectId) :
    Option (List Char) :=
  payload.feedOrigin.map fun origin => trimEndMatches '/' origin.toList ++
    publicFeedWellKnownPathPrefix.toList ++ subjectId.toText.toList

/-- The authority of an HTTPS URL: what stands before the path, the query and the fragment. -/
def urlAuthority (url : List Char) : List Char :=
  (url.drop 8).takeWhile fun character => !(['/', '\\', '?', '#'].contains character)

/-! ## Accepted origins -/

theorem eq_withoutSuffix :
    text = withoutSuffix mark text ∨ text = withoutSuffix mark text ++ [mark] := by
  unfold withoutSuffix
  split
  case isTrue last => exact .inr (List.dropLast_append_getLast? mark last).symm
  case isFalse => exact .inl rfl

theorem withoutSuffix_subset : withoutSuffix mark text ⊆ text := by
  unfold withoutSuffix
  split
  case isTrue => exact List.dropLast_subset text
  case isFalse => exact List.Subset.refl text

/-- An origin is its scheme and its authority, with one slash at most behind them. -/
theorem of_feedOriginAuthority {origin : String} {authority : List Char}
    (found : feedOriginAuthority origin = some authority) :
    (origin.toList = "https://".toList ++ authority ∨
        origin.toList = "https://".toList ++ authority ++ ['/']) ∧
      (∀ mark ∈ ['/', '@', '?', '#', '\\'], mark ∉ authority) ∧ authority ≠ [] := by
  unfold feedOriginAuthority at found
  split at found
  case isTrue => cases found
  case isFalse admitted =>
    simp only [Bool.or_eq_true, not_or, Bool.not_eq_true, Bool.not_eq_false'] at admitted
    obtain ⟨⟨⟨_, scheme⟩, marks⟩, _⟩ := admitted
    obtain ⟨rest, scheme⟩ := List.isPrefixOf_iff_prefix.mp scheme
    have dropped : origin.toList.drop 8 = rest := by
      rw [← scheme]
      rfl
    rw [dropped] at found
    obtain ⟨⟨filled, noSlash⟩, same⟩ := Option.ite_none_right_eq_some.mp found
    cases same
    refine ⟨?_, ?_, filled⟩
    · rw [← scheme, List.append_assoc, List.append_cancel_left_eq, List.append_cancel_left_eq]
      exact eq_withoutSuffix '/' rest
    · refine List.forall_mem_cons.mpr ⟨noSlash, ?_⟩
      intro mark listed inside
      have within : mark ∈ origin.toList :=
        scheme ▸ List.mem_append_right _ (withoutSuffix_subset '/' rest inside)
      have absent := List.any_eq_false.mp marks mark within
      exact absent (List.contains_iff_mem.mpr listed)

/-- A canonical label has no capital letter. -/
theorem not_capital {letter : Char}
    (canonical : (letter.isLower || letter.isDigit || decide (letter = '-')) = true) :
    ¬('A' ≤ letter ∧ letter ≤ 'Z') := by
  intro ⟨low, high⟩
  rw [Char.le_def, UInt32.le_iff_toNat_le] at low high
  rw [Bool.or_eq_true, Bool.or_eq_true, decide_eq_true_eq] at canonical
  have first : 'A'.val.toNat = 65 := rfl
  have last : 'Z'.val.toNat = 90 := rfl
  rcases canonical with (lower | digit) | rfl
  · have bounds := Bool.and_eq_true_iff.mp lower
    have above : 'a'.val.toNat ≤ letter.val.toNat := of_decide_eq_true bounds.1
    have start : 'a'.val.toNat = 97 := rfl
    omega
  · have bounds := Bool.and_eq_true_iff.mp digit
    have under : letter.val.toNat ≤ '9'.val.toNat := of_decide_eq_true bounds.2
    have finish : '9'.val.toNat = 57 := rfl
    omega
  · revert low
    decide

/-- A label that a client reads as a number and the check does not is `0x`. -/
theorem eq_emptyHex {label : List Char} {value : Nat} (valid : validCanonicalDnsLabel label = true)
    (read : Ipv4.number label = some value) (name : looksLikeWhatwgIpv4Part label = false) :
    label = ['0', 'x'] := by
  simp only [validCanonicalDnsLabel, Bool.and_eq_true] at valid
  obtain ⟨⟨⟨⟨filled, _⟩, _⟩, _⟩, letters⟩ := valid
  have noCapital (letter : Char) (listed : letter ∈ label) : ¬('A' ≤ letter ∧ letter ≤ 'Z') :=
    not_capital (List.all_eq_true.mp letters letter listed)
  rw [looksLikeWhatwgIpv4Part, filled, Bool.true_and, Bool.or_eq_false_iff] at name
  obtain ⟨notDecimal, notHex⟩ := name
  rcases Ipv4.of_number read with decimals | ⟨mark, hex, rfl, marked, hexes⟩
  · rw [List.all_eq_true.mpr decimals] at notDecimal
    cases notDecimal
  · obtain rfl : mark = 'x' := by
      refine marked.resolve_right ?_
      rintro rfl
      exact noCapital 'X' (List.mem_cons_of_mem _ List.mem_cons_self) (by decide)
    have lower : hex.all (fun digit => digit.isDigit || ('a' ≤ digit && digit ≤ 'f')) = true := by
      refine List.all_eq_true.mpr ?_
      intro digit listed
      rw [Bool.or_eq_true, Bool.and_eq_true, decide_eq_true_eq, decide_eq_true_eq]
      rcases hexes digit listed with decimal | small | ⟨low, high⟩
      · exact .inl decimal
      · exact .inr small
      · exact absurd ⟨low, Char.le_trans high (by decide)⟩
          (noCapital digit (List.mem_cons_of_mem _ (List.mem_cons_of_mem _ listed)))
    have stripped : ('0' :: 'x' :: hex).dropPrefix? ['0', 'x'] = some hex :=
      List.dropPrefix?_eq_some_iff.mpr ⟨['0', 'x'], rfl, rfl⟩
    rw [stripped, Option.any_some, lower, Bool.and_true, Bool.not_eq_false'] at notHex
    rw [List.isEmpty_iff.mp notHex]

variable {host : List Char}

/-- A canonical host has no last empty label to leave out. -/
theorem parts_of_valid (valid : validCanonicalDnsHost host = true) :
    Ipv4.parts host = host.splitOn '.' := by
  have labels := (Bool.and_eq_true_iff.mp valid).2
  refine if_neg ?_
  rintro ⟨last, _⟩
  have empty := List.all_eq_true.mp labels [] (List.mem_of_getLast? last)
  cases empty

/-- The canonical hosts that are addresses. -/
theorem parse_ne_none_of_valid (valid : validCanonicalDnsHost host = true) :
    Ipv4.parse host ≠ none ↔
      ∃ numbers, (host.splitOn '.').mapM Ipv4.number = some numbers ∧ Ipv4.Fills numbers := by
  rw [Ipv4.parse_ne_none_iff, parts_of_valid valid]

/-- A canonical host that is an address has a label `0x`. -/
theorem emptyHex_mem_labels (valid : validCanonicalDnsHost host = true)
    (address : Ipv4.parse host ≠ none) : ['0', 'x'] ∈ host.splitOn '.' := by
  obtain ⟨numbers, read, _⟩ := (parse_ne_none_of_valid valid).mp address
  simp only [validCanonicalDnsHost, Bool.and_eq_true] at valid
  obtain ⟨⟨_, name⟩, labels⟩ := valid
  rw [Bool.not_eq_true', looksLikeWhatwgIpv4Host, List.all_eq_false] at name
  obtain ⟨label, listed, name⟩ := name
  obtain ⟨value, found⟩ := Ipv4.number_of_mapM read listed
  have same := eq_emptyHex (List.all_eq_true.mp labels label listed) found
    (Bool.eq_false_iff.mpr name)
  exact same ▸ listed

/-! ## Feed URLs -/

theorem trimEndMatches_origin {origin : String} {authority : List Char}
    (found : feedOriginAuthority origin = some authority) :
    trimEndMatches '/' origin.toList = "https://".toList ++ authority := by
  obtain ⟨shape, marks, filled⟩ := of_feedOriginAuthority found
  have kept : trimEndMatches '/' ("https://".toList ++ authority) =
      "https://".toList ++ authority := by
    refine List.rdropWhile_eq_self_iff.mpr ?_
    intro present slash
    rw [List.getLast_append_of_ne_nil present filled, decide_eq_true_eq] at slash
    exact marks '/' List.mem_cons_self (slash ▸ List.getLast_mem filled)
  rcases shape with plain | slashed
  · rw [plain, kept]
  · rw [slashed, trimEndMatches, List.rdropWhile_concat_pos _ _ _ (by decide)]
    exact kept

/-- What follows the authority of a URL does not change it. -/
theorem urlAuthority_append {authority rest : List Char}
    (marks : ∀ mark ∈ ['/', '@', '?', '#', '\\'], mark ∉ authority)
    (ends : rest = [] ∨ rest.head? = some '/') :
    urlAuthority ("https://".toList ++ authority ++ rest) = authority := by
  have inside : ∀ letter ∈ authority, (!(['/', '\\', '?', '#'].contains letter)) = true := by
    intro letter listed
    rw [Bool.not_eq_true', ← Bool.not_eq_true, List.contains_iff_mem]
    intro mark
    have among : ['/', '\\', '?', '#'] ⊆ ['/', '@', '?', '#', '\\'] := by decide
    exact marks letter (among mark) listed
  have dropped : ("https://".toList ++ authority ++ rest).drop 8 = authority ++ rest := by
    rw [List.append_assoc]
    rfl
  rw [urlAuthority, dropped, List.takeWhile_append_of_pos inside]
  rcases ends with rfl | slash
  · exact List.append_nil authority
  · cases rest with
    | nil => cases slash
    | cons first rest =>
      cases slash
      exact List.append_nil authority

/-- An accepted origin has its host and nothing else that a client could read another host
from, and its feed URL has the same authority.  Its host is an address for a client only if it
has a label `0x`, and exactly if all its labels are numbers that fill an address. -/
theorem feed_origin_host_iff {origin : String} (valid : validPublicFeedOrigin origin = true) :
    ∃ authority, feedOriginAuthority origin = some authority ∧
      (origin.toList = "https://".toList ++ authority ∨
        origin.toList = "https://".toList ++ authority ++ ['/']) ∧
      (∀ mark ∈ ['/', '@', '?', '#', '\\'], mark ∉ authority) ∧
      urlAuthority origin.toList = authority ∧
      (∀ payload subjectId, payload.feedOrigin = some origin →
        (publicFeedUrl payload subjectId).map urlAuthority = some authority) ∧
      (Ipv4.parse (authorityHost authority) ≠ none →
        ['0', 'x'] ∈ (authorityHost authority).splitOn '.') ∧
      (Ipv4.parse (authorityHost authority) ≠ none ↔
        ∃ numbers, ((authorityHost authority).splitOn '.').mapM Ipv4.number = some numbers ∧
          Ipv4.Fills numbers) := by
  obtain ⟨authority, found, canonical⟩ := (Option.any_eq_true _ _).mp valid
  obtain ⟨shape, marks, _⟩ := of_feedOriginAuthority found
  have host : validCanonicalDnsHost (authorityHost authority) = true := by
    rw [validCanonicalDnsAuthority, Bool.if_false_left, Bool.and_eq_true, Bool.and_eq_true]
      at canonical
    exact canonical.2.1
  refine ⟨authority, found, shape, marks, ?_, ?_, emptyHex_mem_labels host,
    parse_ne_none_of_valid host⟩
  · rcases shape with plain | slashed
    · rw [plain, ← List.append_nil ("https://".toList ++ authority)]
      exact urlAuthority_append marks (.inl rfl)
    · rw [slashed]
      exact urlAuthority_append marks (.inr rfl)
  · intro payload subjectId named
    rw [publicFeedUrl, named, Option.map_some, Option.map_some, trimEndMatches_origin found,
      List.append_assoc ("https://".toList ++ authority)]
    exact congrArg some (urlAuthority_append marks (.inr rfl))

/-- A DNS name with a port is accepted and is no address. -/
theorem feeds_example_no_address :
    validPublicFeedOrigin "https://feeds.example:8443/" = true ∧
      Ipv4.parse "feeds.example".toList = none := by
  have valid : validPublicFeedOrigin "https://feeds.example:8443/" = true := by decide +kernel
  obtain ⟨authority, found, _, _, _, _, labels, _⟩ := feed_origin_host_iff valid
  obtain rfl : "feeds.example:8443".toList = authority :=
    Option.some.inj (Eq.trans (by decide +kernel) found)
  refine ⟨valid, ?_⟩
  by_contra address
  exact absurd (labels address) (by decide +kernel)

/-- The loopback address, spelled with a part `0x`, is accepted. -/
theorem loopback_accepted :
    validPublicFeedOrigin "https://0x7f.0x.0.1" = true ∧
      (feedOriginAuthority "https://0x7f.0x.0.1").map authorityHost = some "0x7f.0x.0.1".toList ∧
      Ipv4.parse "0x7f.0x.0.1".toList = some 0x7f000001 := by
  decide +kernel

end Dirextalk.Public
