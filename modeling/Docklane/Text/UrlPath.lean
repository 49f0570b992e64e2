import Mathlib.Tactic.Common

/-!
# Percent-encoded URL paths

The path part of a URL as Go's `net/url` reads it: `unescape` decodes the whole text, `escape`
writes a path back, `validEncoded` tells which texts are kept as they were sent. A slash in the
text separates segments, an escaped slash does not; `encodesSlash` finds the second kind.

The main facts are that decoding goes through a separator (`unescape_append_slash`), that what
`escape` writes is read back (`unescape_escape`), and that a decoded text has a slash exactly
where the text has a slash or an escaped one (`slash_mem_of_unescape`).
-/

namespace UrlPath

/-- A Go string: its bytes. -/
abbrev Bytes := List UInt8

/-- The bytes of an ASCII literal. -/
def ascii (s : String) : Bytes :=
  s.toList.map fun c => c.toNat.toUInt8

/-- The byte `/`. -/
abbrev slash : UInt8 := 47

/-- The byte `%`. -/
abbrev percent : UInt8 := 37

/-- The value of a hexadecimal digit. -/
def unhex (c : UInt8) : Option UInt8 :=
  if 48 ≤ c ∧ c ≤ 57 then some (c - 48)
  else if 97 ≤ c ∧ c ≤ 102 then some (c - 87)
  else if 65 ≤ c ∧ c ≤ 70 then some (c - 55)
  else none

/-- The upper-case hexadecimal digit of a value below 16. -/
def hexDigit (n : UInt8) : UInt8 :=
  if n < 10 then 48 + n else 55 + n

/-- The byte that `%ab` stands for. -/
def unhexPair (a b : UInt8) : Option UInt8 := do
  let hi ← unhex a
  let lo ← unhex b
  return hi * 16 + lo

/-- Decode every `%ab`; a `%` without two hexadecimal digits is an error. -/
def unescape : Bytes → Option Bytes
  | [] => some []
  | 37 :: a :: b :: rest => do
    let c ← unhexPair a b
    let tail ← unescape rest
    return c :: tail
  | c :: rest => if c = percent then none else (c :: ·) <$> unescape rest

/-- The bytes that a path may not hold as they are. -/
def shouldEscape (c : UInt8) : Bool :=
  !((97 ≤ c && c ≤ 122) || (65 ≤ c && c ≤ 90) || (48 ≤ c && c ≤ 57) ||
    (ascii "-_.~$&+,/:;=@").contains c)

def escapeByte (c : UInt8) : Bytes :=
  if shouldEscape c then [percent, hexDigit (c / 16), hexDigit (c % 16)] else [c]

/-- Write a decoded path as the path of a URL. -/
def escape (path : Bytes) : Bytes :=
  path.flatMap escapeByte

/-- The texts that are kept as the encoding they were sent in. -/
def validEncoded (text : Bytes) : Bool :=
  text.all fun c => (ascii "!$&'()*+,;=:@[]%").contains c || !shouldEscape c

/-- The text holds an escaped slash, `%2F` or `%2f`. -/
def encodesSlash : Bytes → Bool
  | [] => false
  | 37 :: a :: b :: rest => unhexPair a b == some slash || encodesSlash rest
  | _ :: rest => encodesSlash rest

/-! ## Decoding -/

theorem unescape_cons_of_ne {c : UInt8} (hc : c ≠ percent) (rest : Bytes) :
    unescape (c :: rest) = (c :: ·) <$> unescape rest := by
  rw [unescape]
  · simp [hc]
  · rintro _ _ _ rfl -
    exact hc rfl

theorem encodesSlash_cons_of_ne {c : UInt8} (hc : c ≠ percent) (rest : Bytes) :
    encodesSlash (c :: rest) = encodesSlash rest := by
  rw [encodesSlash]
  rintro _ _ _ rfl -
  exact hc rfl

/-- Digits of a percent triple are never a separator. -/
theorem unhexPair_slash_left (b : UInt8) : unhexPair slash b = none := by
  simp [unhexPair, show unhex slash = none by decide]

theorem unhexPair_slash_right (a : UInt8) : unhexPair a slash = none := by
  simp [unhexPair, show unhex slash = none by decide]

/-- Decoding never looks across a separator. -/
theorem unescape_append_slash (s t : Bytes) :
    unescape (s ++ slash :: t) = do
      let a ← unescape s
      let b ← unescape t
      return a ++ slash :: b := by
  fun_induction unescape s with
  | case1 =>
    rw [List.nil_append, unescape_cons_of_ne (show slash ≠ percent by decide)]
    cases unescape t <;> simp
  | case2 a b rest ih =>
    simp only [List.cons_append, unescape, ih]
    cases unhexPair a b <;> cases unescape rest <;> cases unescape t <;> simp
  | case3 rest hshort =>
    -- a `%` with fewer than two bytes before the separator
    match rest, hshort with
    | [], _ =>
      cases t with
      | nil => simp [unescape]
      | cons c t => simp [unescape, unhexPair_slash_left]
    | [a], _ => simp [unescape, unhexPair_slash_right]
    | a :: b :: rest, h => exact absurd rfl (h a b rest rfl)
  | case4 c rest hshort hc ih =>
    rw [List.cons_append, unescape_cons_of_ne hc, ih]
    cases unescape rest <;> cases unescape t <;> simp

variable {s p : Bytes}

/-- Undo one step of decoding at a separator. -/
theorem unescape_split {s t p : Bytes} (h : unescape (s ++ slash :: t) = some p) :
    ∃ a b, unescape s = some a ∧ unescape t = some b ∧ p = a ++ slash :: b := by
  rw [unescape_append_slash] at h
  simp only [Option.bind_eq_bind, Option.bind_eq_some_iff, Option.pure_def, Option.some.injEq] at h
  obtain ⟨a, ha, b, hb, rfl⟩ := h
  exact ⟨a, b, ha, hb, rfl⟩

theorem encodesSlash_append_slash {s t : Bytes} {a : Bytes} (h : unescape s = some a) :
    encodesSlash (s ++ slash :: t) = (encodesSlash s || encodesSlash t) := by
  fun_induction unescape s generalizing a with
  | case1 => exact encodesSlash_cons_of_ne (by decide) t
  | case2 x y rest ih =>
    simp only [Option.bind_eq_bind, Option.bind_eq_some_iff] at h
    obtain ⟨_, _, q, hq, _⟩ := h
    simp [encodesSlash, ih hq, Bool.or_assoc]
  | case3 => simp at h
  | case4 c rest hshort hc ih =>
    obtain ⟨q, hq, -⟩ : ∃ q, unescape rest = some q ∧ c :: q = a := by simpa using h
    rw [List.cons_append, encodesSlash_cons_of_ne hc, encodesSlash_cons_of_ne hc, ih hq]

theorem unescape_ne_nil (h : unescape s = some p) (hs : s ≠ []) : p ≠ [] := by
  fun_cases unescape s with
  | case1 => exact absurd rfl hs
  | case2 a b rest =>
    simp only [unescape, Option.bind_eq_bind, Option.bind_eq_some_iff] at h
    obtain ⟨_, _, _, _, h⟩ := h
    simp [← Option.some.inj h]
  | case3 => simp_all [unescape]
  | case4 c rest hshort hc =>
    rw [unescape_cons_of_ne hc] at h
    obtain ⟨q, _, rfl⟩ : ∃ q, unescape rest = some q ∧ c :: q = p := by simpa using h
    simp

/-- The decoded text has a slash exactly where the text has one, escaped or not. -/
theorem slash_mem_of_unescape (h : unescape s = some p) :
    slash ∈ p ↔ slash ∈ s ∨ encodesSlash s = true := by
  fun_induction unescape s generalizing p with
  | case1 => simp_all [encodesSlash]
  | case2 a b rest ih =>
    simp only [Option.bind_eq_bind, Option.bind_eq_some_iff, Option.pure_def,
      Option.some.injEq] at h
    obtain ⟨c, hc, q, hq, rfl⟩ := h
    have ha : slash ≠ a := fun h => by simp [← h, unhexPair_slash_left] at hc
    have hb : slash ≠ b := fun h => by simp [← h, unhexPair_slash_right] at hc
    have hp : slash ≠ 37 := by decide
    have hc' : slash = c ↔ c = slash := eq_comm
    simp only [List.mem_cons, encodesSlash, hc, ih hq, ha, hb, hp, hc', Bool.or_eq_true, beq_iff_eq,
      Option.some.injEq, false_or]
    tauto
  | case3 => simp at h
  | case4 c rest hshort hc ih =>
    obtain ⟨q, hq, rfl⟩ : ∃ q, unescape rest = some q ∧ c :: q = p := by simpa using h
    simp only [List.mem_cons, ih hq, encodesSlash_cons_of_ne hc, or_assoc]

/-- A segment that decodes to `p` has an escaped slash exactly where `p` has a slash. -/
theorem encodesSlash_iff_slash_mem (h : unescape s = some p) (hs : slash ∉ s) :
    encodesSlash s = true ↔ slash ∈ p := by
  rw [slash_mem_of_unescape h, or_iff_right hs]

/-! ## Segments -/

theorem slash_notMem_of_mem_splitOn {l s : Bytes} (h : s ∈ l.splitOn slash) : slash ∉ s := by
  induction l generalizing s with
  | nil => simp_all
  | cons a l ih =>
    rw [List.splitOn_cons_eq_if_modifyHead] at h
    split_ifs at h with ha
    · rcases List.mem_cons.mp h with rfl | h
      · simp
      · exact ih h
    · obtain ⟨t, ts, hts⟩ := List.exists_cons_of_ne_nil (List.splitOn_ne_nil slash l)
      rw [hts] at h ih
      rcases List.mem_cons.mp h with rfl | h
      · simp only [List.mem_cons, not_or]
        exact ⟨fun e => ha (by simp [e]), ih (by simp)⟩
      · exact ih (by simp [h])

/-- Splitting is by the slashes of a text: it has one part exactly when there are none. -/
theorem splitOn_slash_length (h : slash ∈ s) : 2 ≤ (s.splitOn slash).length := by
  obtain ⟨a, b, rfl⟩ := List.append_of_mem h
  have ha := List.length_pos_iff.mpr (List.splitOn_ne_nil slash a)
  have hb := List.length_pos_iff.mpr (List.splitOn_ne_nil slash b)
  rw [List.splitOn_append_cons_self, List.length_append]
  omega

/-! ## Writing a path -/

theorem byte_cases {P : UInt8 → Prop} (h : ∀ n < 256, P (UInt8.ofNat n)) (c : UInt8) : P c := by
  simpa using h c.toNat c.toNat_lt

theorem unhexPair_hexDigit {c : UInt8} :
    unhexPair (hexDigit (c / 16)) (hexDigit (c % 16)) = some c :=
  byte_cases (P := fun c => unhexPair (hexDigit (c / 16)) (hexDigit (c % 16)) = some c)
    (by decide +kernel) c

theorem escapeByte_decodes (c : UInt8) :
    (escapeByte c = [c] ∧ c ≠ percent) ∨
      ∃ a b, escapeByte c = [percent, a, b] ∧ unhexPair a b = some c ∧ c ≠ slash := by
  by_cases h : shouldEscape c = true
  · refine .inr ⟨_, _, by rw [escapeByte, if_pos h], unhexPair_hexDigit, ?_⟩
    rintro rfl
    exact absurd h (by decide)
  · refine .inl ⟨by simp [escapeByte, h], ?_⟩
    rintro rfl
    exact h (by decide)

theorem unescape_escape (path : Bytes) : unescape (escape path) = some path := by
  induction path with
  | nil => rfl
  | cons c rest ih =>
    rw [escape, List.flatMap_cons, ← escape]
    obtain ⟨h, hc⟩ | ⟨a, b, h, hab, -⟩ := escapeByte_decodes c
    · simp [h, unescape_cons_of_ne hc, ih]
    · simp [h, unescape, hab, ih]

end UrlPath
