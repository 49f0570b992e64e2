import Mathlib.Data.List.DropRight
import Mathlib.Tactic.Common

/-!
# Texts with Unicode tables

The functions of Go's `strings` that work rune by rune. The tables of the `unicode` package are
parameters: which rune is the lower case of which, which runes are the same under simple case
folding, and which are space. All that is known of them is where a table meets ASCII. Only the
dotted capital I and the Kelvin sign have an ASCII letter as their lower case without being ASCII
themselves, and an ASCII rune is folded to its lower case.

Go cuts a text at a byte, not at a rune. `splitBytes` is that cut where it falls between two runes.
-/

/-- The tables of the `unicode` package. -/
structure Unicode where
  lower : Char → Char
  sameFold : Char → Char → Bool
  isSpace : Char → Bool
  lower_ascii : ∀ c, (lower c).toNat < 128 → lower c ≠ 'i' → lower c ≠ 'k' → c.toNat < 128
  sameFold_lower : ∀ c, c.toNat < 128 → sameFold c (lower c) = true

namespace Unicode

/-- A text, rune by rune. -/
abbrev Text := List Char

/-- Tables that know ASCII only. -/
def ascii : Unicode where
  lower := Char.toLower
  sameFold c d := c = d || c.toLower = d || c = d.toLower || c.toLower = d.toLower
  isSpace := Char.isWhitespace
  lower_ascii c h _ _ := by
    by_contra hc
    have hup : ¬ (c.val ≥ 65 ∧ c.val ≤ 90) := fun h =>
      hc (lt_of_le_of_lt (UInt32.le_iff_toNat_le.mp h.2) (by decide))
    have hlower : c.toLower = c := dif_neg hup
    rw [hlower] at h
    exact hc h
  sameFold_lower c _ := by simp

variable (U : Unicode)

/-- `strings.ToLower` -/
def toLower (s : Text) : Text :=
  s.map U.lower

/-- `strings.EqualFold` -/
def equalFold : Text → Text → Bool
  | [], [] => true
  | c :: s, d :: t => U.sameFold c d && equalFold s t
  | _, _ => false

/-- `strings.TrimSpace` -/
def trimSpace (s : Text) : Text :=
  (s.dropWhile U.isSpace).rdropWhile U.isSpace

/-- What stands before and after the first `sep`: `strings.SplitN` into two parts, if `sep` is
contained at all. -/
def cut (sep : Text) : Text → Option (Text × Text)
  | [] => if sep = [] then some ([], []) else none
  | c :: s =>
    if sep <+: c :: s then some ([], (c :: s).drop sep.length)
    else (cut sep s).map fun parts => (c :: parts.1, parts.2)

/-- The first `n` bytes and the rest, where this cuts no rune. -/
def splitBytes : Text → Nat → Option (Text × Text)
  | s, 0 => some ([], s)
  | [], _ + 1 => none
  | c :: s, n + 1 =>
    if c.utf8Size ≤ n + 1 then
      (splitBytes s (n + 1 - c.utf8Size)).map fun parts => (c :: parts.1, parts.2)
    else none

/-! ## Trimmed texts -/

theorem trimSpace_trimSpace (s : Text) : U.trimSpace (U.trimSpace s) = U.trimSpace s := by
  -- what is left begins as the text without its leading space begins
  have hhead : (U.trimSpace s).dropWhile U.isSpace = U.trimSpace s := by
    rw [List.dropWhile_eq_self_iff]
    intro hpos
    have hpre : U.trimSpace s <+: s.dropWhile U.isSpace := List.rdropWhile_prefix _ _
    have hself := List.dropWhile_eq_self_iff.mp (List.dropWhile_idempotent U.isSpace s)
    rw [hpre.getElem hpos]
    exact hself (hpos.trans_le hpre.length_le)
  unfold trimSpace at hhead ⊢
  rw [hhead, List.rdropWhile_idempotent]

/-! ## Texts that begin with ASCII -/

theorem utf8Size_of_ascii {c : Char} (h : c.toNat < 128) : c.utf8Size = 1 := by
  have hle : c.val ≤ 127 := UInt32.le_iff_toNat_le.mpr (Nat.le_of_lt_succ h)
  simp [Char.utf8Size, hle]

theorem splitBytes_of_ascii {p : Text} (hp : ∀ c ∈ p, c.toNat < 128) {s : Text} :
    splitBytes (p ++ s) p.length = some (p, s) := by
  induction p with
  | nil => cases s <;> rfl
  | cons c p ih =>
    have hsize : c.utf8Size = 1 := utf8Size_of_ascii (hp c (by simp))
    have htail := ih fun d hd => hp d (by simp [hd])
    simp [splitBytes, hsize, htail]

/-- No rune but an ASCII one has this rune as its lower case. -/
def Plain (c : Char) : Prop :=
  c.toNat < 128 ∧ c ≠ 'i' ∧ c ≠ 'k'

instance (c : Char) : Decidable (Plain c) :=
  inferInstanceAs (Decidable (_ ∧ _))

/-- A text whose lower case begins with plain runes begins with ASCII, and that beginning is folded
to the same runes. -/
theorem of_isPrefix_toLower {p s : Text} (hp : ∀ c ∈ p, Plain c) (h : p <+: U.toLower s) :
    ∃ q rest, s = q ++ rest ∧ q.length = p.length ∧ (∀ c ∈ q, c.toNat < 128) ∧
      U.equalFold q p = true := by
  induction p generalizing s with
  | nil => exact ⟨[], s, rfl, rfl, by simp, rfl⟩
  | cons d p ih =>
    cases s with
    | nil => simp [toLower] at h
    | cons c s =>
      obtain ⟨rfl, htail⟩ := List.cons_prefix_cons.mp h
      obtain ⟨hascii, hi, hk⟩ := hp (U.lower c) (by simp)
      obtain ⟨q, rest, rfl, hlen, hq, hfold⟩ := ih (fun e he => hp e (by simp [he])) htail
      have hc : c.toNat < 128 := U.lower_ascii c hascii hi hk
      refine ⟨c :: q, rest, rfl, by simp [hlen], ?_, ?_⟩
      · simpa using ⟨hc, hq⟩
      · simp [equalFold, U.sameFold_lower c hc, hfold]

end Unicode
