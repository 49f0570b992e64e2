import Mathlib.Data.List.Forall2
import Mathlib.Data.List.Nodup

/-!
# Rows of a table over time

A table is the list of its rows. An `UPDATE` relates the old and the new rows one by one
(`List.Forall₂`), an `INSERT` appends a row, and a unique key is a function without repetitions on
the rows.
-/

namespace Storage

variable {ρ κ : Type} {R : ρ → ρ → Prop} {rows rows' : List ρ} {key : ρ → κ}

theorem exists_new_row (h : List.Forall₂ R rows rows') {a : ρ} (ha : a ∈ rows) :
    ∃ b ∈ rows', R a b := by
  induction h with
  | nil => cases ha
  | @cons x y _ _ hxy _ ih =>
    rcases List.mem_cons.mp ha with rfl | ha
    · exact ⟨y, List.mem_cons_self, hxy⟩
    · obtain ⟨b, hb, hab⟩ := ih ha
      exact ⟨b, List.mem_cons_of_mem _ hb, hab⟩

theorem exists_old_row (h : List.Forall₂ R rows rows') {b : ρ} (hb : b ∈ rows') :
    ∃ a ∈ rows, R a b := by
  induction h with
  | nil => cases hb
  | @cons x y _ _ hxy _ ih =>
    rcases List.mem_cons.mp hb with rfl | hb
    · exact ⟨x, List.mem_cons_self, hxy⟩
    · obtain ⟨a, ha, hab⟩ := ih hb
      exact ⟨a, List.mem_cons_of_mem _ ha, hab⟩

theorem forall₂_map_right {f : ρ → ρ} (h : ∀ a ∈ rows, R a (f a)) :
    List.Forall₂ R rows (rows.map f) :=
  List.forall₂_map_right_iff.mpr (List.forall₂_same.mpr h)

theorem keys_eq (hkey : ∀ a b, R a b → key b = key a) (h : List.Forall₂ R rows rows') :
    rows'.map key = rows.map key := by
  induction h with
  | nil => rfl
  | cons hab _ ih => rw [List.map_cons, List.map_cons, ih, hkey _ _ hab]

theorem nodup_keys_insert (h : (rows.map key).Nodup) {a : ρ} (ha : ∀ b ∈ rows, key b ≠ key a) :
    ((rows ++ [a]).map key).Nodup := by
  rw [List.map_append, List.nodup_append]
  refine ⟨h, List.nodup_singleton _, ?_⟩
  rintro x hx y hy rfl
  obtain ⟨b, hb, rfl⟩ := List.mem_map.mp hx
  exact ha b hb (List.mem_singleton.mp hy)

/-! ## Transactions on a table -/

/-- What a transaction may leave of a table: the old rows, each with its successor under `R`, and
then some rows that satisfy `New`. -/
def Extends (R : ρ → ρ → Prop) (New : ρ → Prop) (rows rows' : List ρ) : Prop :=
  ∃ kept new, rows' = kept ++ new ∧ List.Forall₂ R rows kept ∧ ∀ r ∈ new, New r

variable {New : ρ → Prop}

theorem Extends.of_forall₂ (h : List.Forall₂ R rows rows') : Extends R New rows rows' :=
  ⟨rows', [], (List.append_nil _).symm, h, fun _ hr => nomatch hr⟩

theorem Extends.refl (hR : ∀ a, R a a) : Extends R New rows rows :=
  .of_forall₂ (List.forall₂_same.mpr fun a _ => hR a)

theorem Extends.insert (hR : ∀ a, R a a) {a : ρ} (ha : New a) : Extends R New rows (rows ++ [a]) :=
  ⟨rows, [a], rfl, List.forall₂_same.mpr fun a _ => hR a, fun _ hr => List.mem_singleton.mp hr ▸ ha⟩

theorem Extends.old (h : Extends R New rows rows') {a : ρ} (ha : a ∈ rows) : ∃ b ∈ rows',
    R a b := by
  obtain ⟨kept, new, rfl, hkept, -⟩ := h
  obtain ⟨b, hb, hab⟩ := exists_new_row hkept ha
  exact ⟨b, List.mem_append_left _ hb, hab⟩

theorem Extends.origin (h : Extends R New rows rows') {b : ρ} (hb : b ∈ rows') :
    (∃ a ∈ rows, R a b) ∨ New b := by
  obtain ⟨kept, new, rfl, hkept, hnew⟩ := h
  rcases List.mem_append.mp hb with hb | hb
  · exact .inl (exists_old_row hkept hb)
  · exact .inr (hnew b hb)

theorem Extends.keys_eq (h : Extends R New rows rows') (hkey : ∀ a b, R a b → key b = key a)
    (hnew : ∀ r, ¬ New r) : rows'.map key = rows.map key := by
  obtain ⟨kept, new, rfl, hkept, hall⟩ := h
  obtain rfl : new = [] := List.eq_nil_iff_forall_not_mem.mpr fun r hr => hnew r (hall r hr)
  rw [List.append_nil]
  exact Storage.keys_eq hkey hkept

/-- The table has a row under the key, and every such row has the property. -/
def Holds (key : ρ → κ) (k : κ) (B : ρ → Prop) (rows : List ρ) : Prop :=
  (∃ r ∈ rows, key r = k) ∧ ∀ r ∈ rows, key r = k → B r

variable {k : κ} {B : ρ → Prop}

/-- A row decides for its key where the key is unique. -/
theorem Holds.of_mem (hunique : (rows.map key).Nodup) {r : ρ} (hr : r ∈ rows) (hk : key r = k)
    (hB : B r) : Holds key k B rows := by
  refine ⟨⟨r, hr, hk⟩, fun a ha hak => ?_⟩
  rw [List.inj_on_of_nodup_map hunique ha hr (hak.trans hk.symm)]
  exact hB

/-- A key that is taken stays taken, and nobody else can take it. -/
theorem Holds.extends (h : Holds key k B rows) (hext : Extends R New rows rows')
    (hkey : ∀ a b, R a b → key b = key a) (hB : ∀ a b, R a b → B a → B b)
    (hnew : ∀ b, New b → ∀ a ∈ rows, key a ≠ key b) : Holds key k B rows' := by
  obtain ⟨⟨r, hr, hk⟩, hall⟩ := h
  obtain ⟨r', hr', hstep⟩ := hext.old hr
  refine ⟨⟨r', hr', (hkey r r' hstep).trans hk⟩, fun b hb hbk => ?_⟩
  rcases hext.origin hb with ⟨a, ha, hab⟩ | hfresh
  · exact hB a b hab (hall a ha ((hkey a b hab).symm.trans hbk))
  · exact absurd (hk.trans hbk.symm) (hnew b hfresh r hr)

theorem Holds.find [DecidableEq κ] (h : Holds key k B rows) :
    ∃ r, rows.find? (fun r => key r = k) = some r ∧ B r := by
  obtain ⟨⟨r, hr, hk⟩, hall⟩ := h
  have hsome : (rows.find? fun r => key r = k).isSome :=
    List.find?_isSome.mpr ⟨r, hr, by simpa using hk⟩
  obtain ⟨found, hfound⟩ := Option.isSome_iff_exists.mp hsome
  exact ⟨found, hfound, hall found (List.mem_of_find?_eq_some hfound)
    (by simpa using List.find?_some hfound)⟩

theorem find_of_mem [DecidableEq κ] (hunique : (rows.map key).Nodup) {r : ρ} (hr : r ∈ rows)
    (hk : key r = k) : rows.find? (fun r => key r = k) = some r := by
  obtain ⟨found, hfound, rfl⟩ := (Holds.of_mem (B := (· = r)) hunique hr hk rfl).find
  exact hfound

end Storage
