import Docklane.Control.Records

/-!
# Private addresses

`isPrivateAddress`, the same function in `registry/registry-endpoint.policy.ts` and in
`deployments/health-endpoint.policy.ts`. It tests the text of an address. What it is for is said
about the number behind the text: `readAddress` reads every form that `isIP` of `node:net` accepts,
and `Address.IsPrivate` names the ranges.
-/

namespace Docklane.Endpoints

open Control (toLowerCase)

/-! ## Reading addresses -/

/-- The number that a text of decimal digits stands for. -/
def decimal (text : List Char) : Nat :=
  text.foldl (fun n c => 10 * n + (c.toNat - '0'.toNat)) 0

/-- A part of a dotted address: a number up to 255 without leading zeros. -/
def octet (text : List Char) : Option Nat :=
  if text.all Char.isDigit ∧ text ≠ [] ∧ (text.head? = some '0' → text.length = 1) ∧
      text.length ≤ 3 ∧ decimal text ≤ 255 then some (decimal text) else none

def readIPv4 (text : List Char) : Option Nat :=
  match text.splitOn '.' with
  | [a, b, c, d] => do
    return ((← octet a) * 256 + (← octet b)) * 65536 + ((← octet c) * 256 + (← octet d))
  | _ => none

def hexDigit (c : Char) : Option Nat :=
  if '0' ≤ c ∧ c ≤ '9' then some (c.toNat - '0'.toNat)
  else if 'a' ≤ c ∧ c ≤ 'f' then some (c.toNat - 'a'.toNat + 10)
  else if 'A' ≤ c ∧ c ≤ 'F' then some (c.toNat - 'A'.toNat + 10)
  else none

/-- A group of an IPv6 address: one to four hexadecimal digits. -/
def hextet (text : List Char) : Option Nat :=
  if text ≠ [] ∧ text.length ≤ 4 then
    (text.mapM hexDigit).map fun digits => digits.foldl (fun n digit => 16 * n + digit) 0
  else none

def leadingGroups : List (List Char) → Option (List Nat)
  | [] => some []
  | part :: parts => do return (← hextet part) :: (← leadingGroups parts)

/-- The groups at the end of an address, where the last two may be a dotted IPv4 address. -/
def trailingGroups : List (List Char) → Option (List Nat)
  | [] => some []
  | [part] =>
    match hextet part with
    | some group => some [group]
    | none => (readIPv4 part).map fun value => [value / 65536, value % 65536]
  | part :: parts => do return (← hextet part) :: (← trailingGroups parts)

/-- The groups on one side of the double colon. -/
def side (read : List (List Char) → Option (List Nat)) (text : List Char) : Option (List Nat) :=
  if text = [] then some [] else read (text.splitOn ':')

/-- The texts before and after the first double colon. -/
def cutDouble : List Char → Option (List Char × List Char)
  | [] => none
  | [_] => none
  | a :: b :: rest =>
    if a = ':' ∧ b = ':' then some ([], rest)
    else (cutDouble (b :: rest)).map fun (before, after) => (a :: before, after)

def readGroups (text : List Char) : Option (List Nat) :=
  match cutDouble text with
  | none => do
    let groups ← trailingGroups (text.splitOn ':')
    if groups.length = 8 then some groups else none
  | some (before, after) => do
    let high ← side leadingGroups before
    let low ← side trailingGroups after
    if high.length + low.length ≤ 7 then
      some (high ++ List.replicate (8 - (high.length + low.length)) 0 ++ low)
    else none

def zoneChar (c : Char) : Bool :=
  c.isAlphanum || c = '-' || c = '.' || c = ':'

/-- An IPv6 address, with or without a zone. -/
def readIPv6 (text : List Char) : Option (List Nat) :=
  match text.dropWhile (· ≠ '%') with
  | [] => readGroups text
  | _ :: zone =>
    if zone ≠ [] ∧ zone.all zoneChar then readGroups (text.takeWhile (· ≠ '%')) else none

/-- An IPv4 address as a number of 32 bits, or the eight groups of an IPv6 address. -/
inductive Address where
  | v4 (value : Nat)
  | v6 (groups : List Nat)
  deriving DecidableEq, Repr

def readAddress (text : String) : Option Address :=
  match readIPv4 text.toList with
  | some value => some (.v4 value)
  | none => (readIPv6 text.toList).map .v6

/-- `isIP` of `node:net`. -/
def isIP (text : String) : Nat :=
  match readAddress text with
  | some (.v4 _) => 4
  | some (.v6 _) => 6
  | none => 0

/-! ## The test on the text -/

def isPrivateAddress (address : String) : Bool :=
  if isIP address = 4 then
    match (address.toList.splitOn '.').map decimal with
    | [a, b, _, _] =>
      a = 0 || a = 10 || a = 127 || (a = 169 && b = 254) || (a = 172 && b ≥ 16 && b ≤ 31) ||
        (a = 192 && b = 168) || a ≥ 224
    | _ => true
  else if isIP address = 6 then
    let value := toLowerCase address
    value = "::".toList || value = "::1".toList ||
      "fe8".toList.isPrefixOf value || "fe9".toList.isPrefixOf value ||
      "fea".toList.isPrefixOf value || "feb".toList.isPrefixOf value ||
      "fc".toList.isPrefixOf value || "fd".toList.isPrefixOf value ||
      "ff".toList.isPrefixOf value
  else true

/-! ## The private ranges -/

/-- 0/8, 10/8, 127/8, 169.254/16, 172.16/12, 192.168/16, and 224.0.0.0 and above. -/
def PrivateIPv4 (value : Nat) : Prop :=
  value / 2 ^ 24 = 0 ∨ value / 2 ^ 24 = 10 ∨ value / 2 ^ 24 = 127 ∨
    value / 2 ^ 16 = 169 * 256 + 254 ∨ value / 2 ^ 20 = 172 * 16 + 1 ∨
    value / 2 ^ 16 = 192 * 256 + 168 ∨ 224 * 2 ^ 24 ≤ value

def unspecified : List Nat := [0, 0, 0, 0, 0, 0, 0, 0]

def loopback : List Nat := [0, 0, 0, 0, 0, 0, 0, 1]

/-- The IPv4 address in an IPv4-mapped address, `::ffff:0:0/96`. -/
def mappedIPv4 : List Nat → Option Nat
  | [0, 0, 0, 0, 0, 0xffff, high, low] => some (high * 65536 + low)
  | _ => none

/-- Link-local `fe80::/10`, unique-local `fc00::/7` or multicast `ff00::/8`. -/
def PrivateFirstGroup (group : Nat) : Prop :=
  group / 2 ^ 6 = 0xfe80 / 2 ^ 6 ∨ group / 2 ^ 9 = 0xfc00 / 2 ^ 9 ∨ group / 2 ^ 8 = 0xff

def Address.IsPrivate : Address → Prop
  | .v4 value => PrivateIPv4 value
  | .v6 groups =>
    groups = unspecified ∨ groups = loopback ∨ (∃ group ∈ groups.head?, PrivateFirstGroup group) ∨
      ∃ value ∈ mappedIPv4 groups, PrivateIPv4 value

/-- The private addresses whose text the test does not recognise: the unspecified and the loopback
address in any but their shortest spelling, and the mapped addresses. -/
def Unrecognised (text : String) : Prop :=
  ∃ groups, readAddress text = some (.v6 groups) ∧
    ((groups = unspecified ∨ groups = loopback) ∧
        toLowerCase text ≠ "::".toList ∧ toLowerCase text ≠ "::1".toList ∨
      ∃ value ∈ mappedIPv4 groups, PrivateIPv4 value)

/-! ## The first group decides the tests on the beginning of the text -/

variable {text : String} {part : List Char} {value : Nat} {groups : List Nat}

theorem head_splitOn_isPrefix {sep : Char} {text part : List Char} {parts : List (List Char)}
    (h : text.splitOn sep = part :: parts) : part <+: text := by
  have hjoin : [sep].intercalate (text.splitOn sep) = text := List.intercalate_splitOn sep
  rw [h] at hjoin
  cases parts with
  | nil => exact ⟨[], by simpa using hjoin⟩
  | cons next parts =>
    rw [List.intercalate_cons_cons, List.append_assoc] at hjoin
    exact ⟨_, hjoin⟩

/-- The lower case digit of a value. -/
def hexChar (value : Nat) : Char :=
  if value < 10 then Char.ofNat ('0'.toNat + value) else Char.ofNat ('a'.toNat + (value - 10))

theorem hexDigit_spec {c : Char} (h : hexDigit c = some value) :
    value < 16 ∧ c.toLower = hexChar value := by
  have hall : ∀ n < 128, ∀ value ∈ hexDigit (Char.ofNat n),
      value < 16 ∧ (Char.ofNat n).toLower = hexChar value := by decide +kernel
  have hascii : c.toNat < 128 := by
    have hle {d : Char} (h : c ≤ d) (hd : d.toNat < 128) : c.toNat < 128 := lt_of_le_of_lt h hd
    unfold hexDigit at h
    split_ifs at h with hdigit hlower hupper
    · exact hle hdigit.2 (by decide)
    · exact hle hlower.2 (by decide)
    · exact hle hupper.2 (by decide)
  have hc := hall c.toNat hascii value
  rw [Char.ofNat_toNat] at hc
  exact hc h

theorem hexDigits_spec {text : List Char} {digits : List Nat}
    (h : text.mapM hexDigit = some digits) :
    (∀ digit ∈ digits, digit < 16) ∧ text.map Char.toLower = digits.map hexChar := by
  induction text generalizing digits with
  | nil =>
    cases h
    exact ⟨nofun, rfl⟩
  | cons c text ih =>
    simp only [List.mapM_cons, Option.bind_eq_bind, Option.bind_eq_some_iff] at h
    obtain ⟨digit, hc, rest, hrest, h⟩ := h
    obtain rfl := Option.some.inj h
    obtain ⟨hsmall, htext⟩ := ih hrest
    obtain ⟨hdigit, hlower⟩ := hexDigit_spec hc
    exact ⟨List.forall_mem_cons.mpr ⟨hdigit, hsmall⟩, by simp [hlower, htext]⟩

theorem hextet_spec (h : hextet part = some value) :
    ∃ digits : List Nat, digits ≠ [] ∧ digits.length ≤ 4 ∧ (∀ digit ∈ digits, digit < 16) ∧
      part.map Char.toLower = digits.map hexChar ∧
      digits.foldl (fun n digit => 16 * n + digit) 0 = value := by
  unfold hextet at h
  split at h
  · rename_i hlength
    obtain ⟨digits, hdigits, hvalue⟩ := Option.map_eq_some_iff.mp h
    obtain ⟨hsmall, htext⟩ := hexDigits_spec hdigits
    have hlen : part.length = digits.length := by simpa using congrArg List.length htext
    refine ⟨digits, fun hnil => hlength.1 ?_, hlen ▸ hlength.2, hsmall, htext, hvalue⟩
    exact List.eq_nil_of_length_eq_zero (by simp [hlen, hnil])
  · cases h

/-- A group that needs four digits begins with the digits of its value. -/
theorem hextet_of_large (h : hextet part = some value) (hlarge : 0x1000 ≤ value) :
    [hexChar (value / 4096), hexChar (value / 256 % 16), hexChar (value / 16 % 16)] <+:
      part.map Char.toLower := by
  obtain ⟨digits, -, hlength, hsmall, htext, hvalue⟩ := hextet_spec h
  match digits with
  | [] | [_] | [_, _] | [_, _, _] =>
    simp at hsmall hvalue
    omega
  | [a, b, c, d] =>
    simp at hsmall hvalue
    rw [htext, show value / 4096 = a by omega, show value / 256 % 16 = b by omega,
      show value / 16 % 16 = c by omega]
    simp
  | _ :: _ :: _ :: _ :: _ :: _ =>
    simp only [List.length_cons] at hlength
    omega

/-- A group of the value zero begins with the digit zero. -/
theorem hextet_of_zero (h : hextet part = some 0) : ['0'] <+: part.map Char.toLower := by
  obtain ⟨digits, hne, hlength, -, htext, hvalue⟩ := hextet_spec h
  have hhead : ∀ rest, digits = 0 :: rest → ['0'] <+: part.map Char.toLower := by
    rintro rest rfl
    rw [htext]
    exact ⟨rest.map hexChar, rfl⟩
  match digits with
  | [] => exact (hne rfl).elim
  | [a] | [a, _] | [a, _, _] | [a, _, _, _] =>
    simp at hvalue
    exact hhead _ (List.cons_eq_cons.mpr ⟨by omega, rfl⟩)
  | _ :: _ :: _ :: _ :: _ :: _ =>
    simp only [List.length_cons] at hlength
    omega

theorem cutDouble_some {text before after : List Char} (h : cutDouble text = some (before, after)) :
    text = before ++ ':' :: ':' :: after := by
  induction text using cutDouble.induct generalizing before after with
  | case1 => cases h
  | case2 => cases h
  | case3 a b rest hcolons =>
    simp only [cutDouble, if_pos hcolons] at h
    obtain ⟨rfl, rfl⟩ := hcolons
    cases h
    rfl
  | case4 a b rest hcolons ih =>
    simp only [cutDouble, if_neg hcolons] at h
    obtain ⟨⟨before', after'⟩, hrest, hpair⟩ := Option.map_eq_some_iff.mp h
    cases hpair
    rw [ih hrest, List.cons_append]

/-- The first group is zero at a double colon, and else it is the text up to a colon. -/
theorem readGroups_first {text : List Char} (h : readGroups text = some groups) :
    ∃ group, groups.head? = some group ∧
      (group = 0 ∧ [':'] <+: text ∨ ∃ part, hextet part = some group ∧ part <+: text) := by
  unfold readGroups at h
  split at h
  · obtain ⟨part, parts, hparts⟩ := List.exists_cons_of_ne_nil (List.splitOn_ne_nil ':' text)
    rw [hparts] at h
    simp only [Option.bind_eq_bind, Option.bind_eq_some_iff] at h
    obtain ⟨all, hall, h⟩ := h
    split at h
    · rename_i hlength
      obtain rfl := Option.some.inj h
      cases parts with
      | nil =>
        -- one group, or the two of a dotted address, are less than eight
        rw [trailingGroups] at hall
        split at hall
        · cases hall
          cases hlength
        · obtain ⟨_, -, rfl⟩ := Option.map_eq_some_iff.mp hall
          cases hlength
      | cons next parts =>
        simp only [trailingGroups, Option.bind_eq_bind, Option.bind_eq_some_iff] at hall
        obtain ⟨group, hgroup, rest, -, heq⟩ := hall
        cases heq
        exact ⟨group, rfl, .inr ⟨part, hgroup, head_splitOn_isPrefix hparts⟩⟩
    · cases h
  · rename_i before after hcut
    have htext := cutDouble_some hcut
    simp only [Option.bind_eq_bind, Option.bind_eq_some_iff] at h
    obtain ⟨high, hhigh, low, -, h⟩ := h
    split at h
    · rename_i hlength
      obtain rfl := Option.some.inj h
      rw [side] at hhigh
      split at hhigh
      · rename_i hbefore
        cases hhigh
        refine ⟨0, ?_, .inl ⟨rfl, by simp [htext, hbefore]⟩⟩
        rw [show 8 - (([] : List Nat).length + low.length) = 7 - low.length + 1 by simp; omega]
        rfl
      · obtain ⟨part, parts, hparts⟩ := List.exists_cons_of_ne_nil (List.splitOn_ne_nil ':' before)
        rw [hparts] at hhigh
        simp only [leadingGroups, Option.bind_eq_bind, Option.bind_eq_some_iff] at hhigh
        obtain ⟨group, hgroup, rest, -, heq⟩ := hhigh
        cases heq
        refine ⟨group, rfl, .inr ⟨part, hgroup, (head_splitOn_isPrefix hparts).trans ?_⟩⟩
        exact htext ▸ List.prefix_append _ _
    · cases h

theorem readIPv6_first {text : List Char} (h : readIPv6 text = some groups) :
    ∃ group, groups.head? = some group ∧
      (group = 0 ∧ [':'] <+: text ∨ ∃ part, hextet part = some group ∧ part <+: text) := by
  unfold readIPv6 at h
  split at h
  · exact readGroups_first h
  · split at h
    · have hprefix : text.takeWhile (· ≠ '%') <+: text := List.takeWhile_prefix _
      obtain ⟨group, hgroup, ⟨hzero, hcolon⟩ | ⟨part, hpart, hp⟩⟩ := readGroups_first h
      · exact ⟨group, hgroup, .inl ⟨hzero, hcolon.trans hprefix⟩⟩
      · exact ⟨group, hgroup, .inr ⟨part, hpart, hp.trans hprefix⟩⟩
    · cases h

/-- An address that begins with a zero group begins with a colon or with the digit zero. -/
theorem lower_of_zero (h : readIPv6 text.toList = some groups) (hzero : groups.head? = some 0) :
    [':'] <+: toLowerCase text ∨ ['0'] <+: toLowerCase text := by
  obtain ⟨group, hgroup, ⟨-, hcolon⟩ | ⟨part, hpart, hp⟩⟩ := readIPv6_first h
  · exact .inl (hcolon.map Char.toLower)
  · obtain rfl : group = 0 := Option.some.inj (hgroup.symm.trans hzero)
    exact .inr ((hextet_of_zero hpart).trans (hp.map Char.toLower))

/-- The first group of a link-local, unique-local or multicast address takes four digits, so that
the text begins with them. -/
theorem lower_of_privateFirstGroup {group : Nat} (h : readIPv6 text.toList = some groups)
    (hhead : groups.head? = some group) (hgroup : PrivateFirstGroup group) :
    [hexChar (group / 4096), hexChar (group / 256 % 16), hexChar (group / 16 % 16)] <+:
      toLowerCase text := by
  obtain ⟨group', hgroup', ⟨rfl, -⟩ | ⟨part, hpart, hp⟩⟩ := readIPv6_first h
  · obtain rfl : 0 = group := Option.some.inj (hgroup'.symm.trans hhead)
    simp [PrivateFirstGroup] at hgroup
  · obtain rfl : group' = group := Option.some.inj (hgroup'.symm.trans hhead)
    have hlarge : 0x1000 ≤ group' := by
      unfold PrivateFirstGroup at hgroup
      omega
    exact (hextet_of_large hpart hlarge).trans (hp.map Char.toLower)

/-! ## What the test recognises -/

theorem isPrivateAddress_v6 (h : readAddress text = some (.v6 groups)) :
    isPrivateAddress text = true ↔
      toLowerCase text = "::".toList ∨ toLowerCase text = "::1".toList ∨
        ∃ start ∈ ["fe8", "fe9", "fea", "feb", "fc", "fd", "ff"],
          start.toList <+: toLowerCase text := by
  simp [isPrivateAddress, isIP, h, or_assoc, List.isPrefixOf_iff_prefix]

theorem isPrivateAddress_v4 (h : readAddress text = some (.v4 value))
    (hprivate : PrivateIPv4 value) :
    isPrivateAddress text = true := by
  have hv4 : readIPv4 text.toList = some value := by
    unfold readAddress at h
    split at h
    · cases h
      assumption
    · obtain ⟨_, -, heq⟩ := Option.map_eq_some_iff.mp h
      cases heq
  have hoctet {part : List Char} {n : Nat} (hn : octet part = some n) :
      decimal part = n ∧ n ≤ 255 := by
    unfold octet at hn
    split at hn
    · rename_i hpart
      cases hn
      exact ⟨rfl, hpart.2.2.2.2⟩
    · cases hn
  unfold readIPv4 at hv4
  split at hv4
  · rename_i a b c d hsplit
    simp only [Option.bind_eq_bind, Option.bind_eq_some_iff] at hv4
    obtain ⟨na, ha, nb, hb, nc, hc, nd, hd, hvalue⟩ := hv4
    obtain ⟨ha, ha'⟩ := hoctet ha
    obtain ⟨hb, hb'⟩ := hoctet hb
    obtain ⟨-, hc'⟩ := hoctet hc
    obtain ⟨-, hd'⟩ := hoctet hd
    have hvalue : (na * 256 + nb) * 65536 + (nc * 256 + nd) = value := Option.some.inj hvalue
    have height : value / 2 ^ 24 = na := by omega
    have htwelve : value / 2 ^ 20 = na * 16 + nb / 16 := by omega
    have hsixteen : value / 2 ^ 16 = na * 256 + nb := by omega
    simp only [isPrivateAddress, isIP, h, hsplit, List.map_cons, List.map_nil, ha, hb, if_true,
      Bool.or_eq_true, Bool.and_eq_true, decide_eq_true_eq, or_assoc]
    rw [PrivateIPv4, height, htwelve, hsixteen] at hprivate
    rcases hprivate with hzero | hten | hself | hlink | hclassB | hclassC | hhigh
    · exact .inl hzero
    · exact .inr (.inl hten)
    · exact .inr (.inr (.inl hself))
    · exact .inr (.inr (.inr (.inl (by omega))))
    · exact .inr (.inr (.inr (.inr (.inl (by omega)))))
    · exact .inr (.inr (.inr (.inr (.inr (.inl (by omega))))))
    · exact .inr (.inr (.inr (.inr (.inr (.inr (by omega))))))
  · cases hv4

theorem eq_of_toLower {c d : Char} (h : c.toLower = d) (hd : d.toNat < 97) : c = d := by
  have hall : ∀ n < 128, (Char.ofNat n).toLower.toNat < 97 →
      (Char.ofNat n).toLower = Char.ofNat n := by decide +kernel
  by_cases hupper : c.val ≥ 'A'.val ∧ c.val ≤ 'Z'.val
  · have hc := hall c.toNat (lt_of_le_of_lt hupper.2 (by decide))
    rw [Char.ofNat_toNat, h] at hc
    exact (hc hd).symm
  · have hsame : c.toLower = c := dif_neg hupper
    rwa [hsame] at h

/-- Only the text itself has a lower case form without letters. -/
theorem toList_of_toLowerCase {value : List Char} (h : toLowerCase text = value)
    (hvalue : value.all (·.toNat < 97) = true) : text.toList = value := by
  unfold toLowerCase at h
  generalize text.toList = chars at h
  induction chars generalizing value with
  | nil => exact h
  | cons c chars ih =>
    subst h
    rw [List.map_cons, List.all_cons, Bool.and_eq_true] at hvalue
    have hc : c = c.toLower := eq_of_toLower rfl (of_decide_eq_true hvalue.1)
    have hchars : chars = chars.map Char.toLower := ih hvalue.2 rfl
    rw [List.map_cons, ← hc, ← hchars]

theorem readIPv6_of_readAddress (h : readAddress text = some (.v6 groups)) :
    readIPv6 text.toList = some groups := by
  unfold readAddress at h
  split at h
  · cases h
  · obtain ⟨_, hread, heq⟩ := Option.map_eq_some_iff.mp h
    cases heq
    exact hread

/-- No address that begins with a zero group begins like a private one. -/
theorem not_start_of_zero (h : readIPv6 text.toList = some groups) (hzero : groups.head? = some 0) :
    ¬ ∃ start ∈ ["fe8", "fe9", "fea", "feb", "fc", "fd", "ff"],
      start.toList <+: toLowerCase text := by
  rintro ⟨start, hstart, hprefix⟩
  have hf : ['f'] <+: start.toList := by
    simp only [List.mem_cons, List.not_mem_nil, or_false] at hstart
    rcases hstart with rfl | rfl | rfl | rfl | rfl | rfl | rfl <;> exact ⟨_, rfl⟩
  obtain ⟨rest, hrest⟩ := hf.trans hprefix
  rcases lower_of_zero h hzero with ⟨other, hother⟩ | ⟨other, hother⟩ <;>
    exact absurd (hrest.trans hother.symm) (by simp)

theorem start_of_privateFirstGroup {group : Nat} (h : readIPv6 text.toList = some groups)
    (hhead : groups.head? = some group) (hgroup : PrivateFirstGroup group) :
    ∃ start ∈ ["fe8", "fe9", "fea", "feb", "fc", "fd", "ff"],
      start.toList <+: toLowerCase text := by
  have hlower := lower_of_privateFirstGroup h hhead hgroup
  have hfirst : group / 4096 = 15 := by
    unfold PrivateFirstGroup at hgroup
    omega
  rw [hfirst] at hlower
  rcases hgroup with hlocal | hunique | hmulticast
  · have hsecond : group / 256 % 16 = 14 := by omega
    have hthird : group / 16 % 16 = 8 ∨ group / 16 % 16 = 9 ∨ group / 16 % 16 = 10 ∨
        group / 16 % 16 = 11 := by omega
    rw [hsecond] at hlower
    rcases hthird with hthird | hthird | hthird | hthird <;> rw [hthird] at hlower
    · exact ⟨"fe8", by simp, hlower⟩
    · exact ⟨"fe9", by simp, hlower⟩
    · exact ⟨"fea", by simp, hlower⟩
    · exact ⟨"feb", by simp, hlower⟩
  · have hsecond : group / 256 % 16 = 12 ∨ group / 256 % 16 = 13 := by omega
    rcases hsecond with hsecond | hsecond <;> rw [hsecond] at hlower
    · exact ⟨"fc", by simp, .trans ⟨_, rfl⟩ hlower⟩
    · exact ⟨"fd", by simp, .trans ⟨_, rfl⟩ hlower⟩
  · have hsecond : group / 256 % 16 = 15 := by omega
    rw [hsecond] at hlower
    exact ⟨"ff", by simp, .trans ⟨_, rfl⟩ hlower⟩

theorem mappedIPv4_eq_some (h : mappedIPv4 groups = some value) :
    groups.head? = some 0 ∧ groups ≠ unspecified ∧ groups ≠ loopback := by
  unfold mappedIPv4 at h
  split at h
  · exact ⟨rfl, by simp [unspecified], by simp [loopback]⟩
  · cases h

/-- The test recognises every private address, the `Unrecognised` ones and only them apart. -/
theorem recognises_iff {address : Address} (h : readAddress text = some address) :
    (address.IsPrivate → isPrivateAddress text = true) ↔ ¬ Unrecognised text := by
  cases address with
  | v4 value =>
    refine iff_of_true (isPrivateAddress_v4 h) ?_
    rintro ⟨groups, hgroups, -⟩
    cases h.symm.trans hgroups
  | v6 groups =>
    have hread := readIPv6_of_readAddress h
    rw [isPrivateAddress_v6 h]
    constructor
    · rintro hrecognised ⟨groups', hgroups', hunrecognised⟩
      cases h.symm.trans hgroups'
      rcases hunrecognised with ⟨hshort, hnotShort⟩ | ⟨value, hmapped, hvalue⟩
      · have hzero : groups.head? = some 0 := by rcases hshort with rfl | rfl <;> rfl
        have hprivate : (Address.v6 groups).IsPrivate := hshort.elim .inl (.inr ∘ .inl)
        rcases hrecognised hprivate with hsame | hsame | hstart
        · exact hnotShort.1 hsame
        · exact hnotShort.2 hsame
        · exact not_start_of_zero hread hzero hstart
      · obtain ⟨hzero, hunspecified, hloopback⟩ := mappedIPv4_eq_some hmapped
        rcases hrecognised (.inr (.inr (.inr ⟨value, hmapped, hvalue⟩))) with hsame | hsame | hstart
        · rw [toList_of_toLowerCase hsame (by decide)] at hread
          exact hunspecified (Option.some.inj hread).symm
        · rw [toList_of_toLowerCase hsame (by decide)] at hread
          exact hloopback (Option.some.inj hread).symm
        · exact not_start_of_zero hread hzero hstart
    · intro hseen hprivate
      rcases hprivate with hshort | hshort | ⟨group, hhead, hgroup⟩ | hmapped
      · by_contra hnot
        exact hseen ⟨groups, h, .inl ⟨.inl hshort, fun e => hnot (.inl e),
          fun e => hnot (.inr (.inl e))⟩⟩
      · by_contra hnot
        exact hseen ⟨groups, h, .inl ⟨.inr hshort, fun e => hnot (.inl e),
          fun e => hnot (.inr (.inl e))⟩⟩
      · exact .inr (.inr (start_of_privateFirstGroup hread hhead hgroup))
      · exact (hseen ⟨groups, h, .inr hmapped⟩).elim

end Docklane.Endpoints
