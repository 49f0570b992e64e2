import Docklane.Control.Intents

/-!
# Admissions and mutation requests

A call draws a random id for its admission, inserts the row and gives it back when its callback has
ended. A mutation request is sent for a row that the call itself has inserted.
-/

namespace Docklane.Control

open Concurrent Storage

/-! ## Admissions -/

variable {generation : Nat} {a : Admission}

section Admissions

variable {Tid : Type} [DecidableEq Tid] {E : Premises} {w w' : World Tid} {i : Tid}

theorem not_shut_of_open {db : Db} (hkeyed : db.Keyed) {clusterId : String}
    {row : MaintenanceRecord}
    (hopen : db.findMaintenance clusterId = some ⟨clusterId, .OPEN, generation⟩)
    (hrow : row ∈ db.maintenance) (hshut : row.state.isShut = true) :
    clusterId ≠ row.clusterId := by
  intro heq
  obtain rfl := List.inj_on_of_nodup_map hkeyed.maintenance (List.mem_of_find?_eq_some hopen) hrow
    heq
  cases hshut

theorem admission_inserted (hinv : Inv E w)
    (hopen : w.db.findMaintenance a.clusterId = some ⟨a.clusterId, .OPEN, generation⟩)
    (hissued : w.issued a.id = some i) (hunused : w.db.Unused a.id)
    {admitted : Tid → Option Admission}
    (hadmitted : admitted = w.admitted ∨ admitted = Function.update w.admitted i (some a)) :
    let w' := { w with
      db := { w.db with admissions := w.db.admissions ++ [a] }, admitted := admitted }
    Inv E w' ∧ Guar E i w w' := by
  have hold : ∀ {j b}, admitted j = some b → w.admitted j = some b ∨ j = i ∧ b = a := by
    intro j b hb
    rcases hadmitted with rfl | rfl
    · exact .inl hb
    · by_cases hj : j = i
      · subst hj
        simp only [Function.update_self, Option.some.injEq] at hb
        exact .inr ⟨rfl, hb.symm⟩
      · rw [Function.update_of_ne hj] at hb
        exact .inl hb
  have hnew : E.careful → ∀ {j b}, w.admitted j = some b → b.id ≠ a.id := by
    intro hcareful j b hb heq
    obtain ⟨row, hrow, hid, -⟩ := ((hinv.fenced hcareful).recorded j b hb).1
    exact hunused.1 row hrow (hid.trans heq)
  have hrows : w.db.SameRows { w.db with admissions := w.db.admissions ++ [a] } :=
    ⟨rfl, rfl, rfl, rfl, rfl, rfl⟩
  refine ⟨⟨hrows.keyed hinv.keyed,
      ⟨hinv.dispatched.created, hinv.dispatched.once, hinv.dispatched.sent⟩,
      ⟨fun b hb => ?_, hinv.issued.resolutions⟩,
      fun hclean => hrows.exclusive (hinv.exclusive hclean),
      fun hclean => hrows.consistent (hinv.consistent hclean), fun hcareful =>
        ⟨fun j b hb => ?_, fun j k b c hb hc heq => ?_, fun henforced row hrow hshut => ?_⟩⟩,
    ⟨fun _ _ _ => Iff.rfl, fun _ _ => rfl, fun j hj => ?_, fun _ _ => rfl,
      hrows.dbStep (.refl E _ w.db),
      fun _ _ => hrows.rollbackStep ((Db.Gentle.refl w.db).rollbackStep hinv.keyed),
      fun _ => .of_eq hrows.deployments, fun r hr => .inl hr, fun _ _ hc => hc, fun _ _ hi => hi,
      fun id j hj hid hun => ?_⟩⟩
  · rcases List.mem_append.mp hb with hb | hb
    · exact hinv.issued.admissions b hb
    · obtain rfl := List.mem_singleton.mp hb
      exact ⟨i, hissued⟩
  · rcases hold hb with hb | ⟨rfl, rfl⟩
    · obtain ⟨⟨row, hrow, hrest⟩, hres⟩ := (hinv.fenced hcareful).recorded j b hb
      exact ⟨⟨row, List.mem_append_left _ hrow, hrest⟩, hres⟩
    · exact ⟨⟨b, List.mem_append_right _ (List.mem_singleton_self b), rfl, rfl⟩, hunused.2 _⟩
  · rcases hold hb with hb' | ⟨rfl, rfl⟩ <;> rcases hold hc with hc' | ⟨rfl, rfl⟩
    · exact (hinv.fenced hcareful).distinct j k b c hb' hc' heq
    · exact absurd heq (hnew hcareful hb')
    · exact absurd heq.symm (hnew hcareful hc')
    · rfl
  · obtain ⟨hdrained, hnone⟩ := (hinv.fenced hcareful).shut henforced row hrow hshut
    refine ⟨hdrained, fun j b hb => ?_⟩
    rcases hold hb with hb | ⟨-, rfl⟩
    · exact hnone j b hb
    · exact not_shut_of_open hinv.keyed hopen hrow hshut
  · rcases hadmitted with rfl | rfl
    · rfl
    · exact Function.update_of_ne hj _ _
  · refine ⟨fun b hb heq => ?_, hun.2⟩
    rcases List.mem_append.mp hb with hb | hb
    · exact hun.1 b hb heq
    · obtain rfl := List.mem_singleton.mp hb
      rw [← heq, hissued] at hid
      exact hj (Option.some.inj hid).symm

theorem insertAdmission_statement (hinv : Inv E w) {clusterId : String}
    (hcluster : a.clusterId = clusterId) (hissued : w.issued a.id = some i)
    (hunused : w.db.Unused a.id)
    {answer : Except Failure (DbOp.insertAdmission clusterId generation a).Reply}
    (h : StatementStep i (DbOp.insertAdmission clusterId generation a) w answer w') :
    Inv E w' ∧ Guar E i w w' ∧ (answer = .ok true → w'.admitted i = some a) ∧
      ∃ rows admitted,
        w' = { w with db := { w.db with admissions := rows }, admitted := admitted } := by
  subst hcluster
  have hsame : answer ≠ .ok true → w' = w → Inv E w' ∧ Guar E i w w' ∧
      (answer = .ok true → w'.admitted i = some a) ∧ ∃ rows admitted,
        w' = { w with db := { w.db with admissions := rows }, admitted := admitted } := by
    rintro hne rfl
    exact ⟨hinv, .refl E i hinv, fun h => absurd h hne, w'.db.admissions, w'.admitted, rfl⟩
  cases h with
  | @executed inserted db' hexec _ =>
    obtain ⟨rfl, rfl⟩ | ⟨rfl, hopen, -, rfl⟩ := Db.insertAdmission_ok hexec
    · exact hsame (fun h => by cases h) rfl
    · obtain ⟨hinv', hguar⟩ := admission_inserted hinv hopen hissued hunused (.inr rfl)
      exact ⟨hinv', hguar, fun _ => Function.update_self _ _ _, _, _, rfl⟩
  | refused _ => exact hsame (fun h => by cases h) rfl
  | failed _ => exact hsame (fun h => by cases h) rfl
  | @unacknowledged inserted db' message hexec _ =>
    obtain ⟨rfl, rfl⟩ | ⟨rfl, hopen, -, rfl⟩ := Db.insertAdmission_ok hexec
    · exact hsame (fun h => by cases h) rfl
    · obtain ⟨hinv', hguar⟩ := admission_inserted hinv hopen hissued hunused (.inl rfl)
      exact ⟨hinv', hguar, (fun h => by cases h), _, w.admitted, rfl⟩

theorem releaseAdmission_statement (hinv : Inv E w) (hadmitted : w.admitted i = some a)
    {answer : Except Failure (DbOp.releaseAdmission a.id).Reply}
    (h : StatementStep i (DbOp.releaseAdmission a.id) w answer w') : Inv E w' ∧ Guar E i w w' := by
  have hstep : ∀ rows : List Admission, (∀ b ∈ rows, b ∈ w.db.admissions) →
      (∀ b ∈ w.db.admissions, b.id ≠ a.id → b ∈ rows) →
      let v := { w with db := { w.db with admissions := rows },
                        admitted := Function.update w.admitted i none }
      Inv E v ∧ Guar E i w v := by
    intro rows hsub hsup
    have hrows : w.db.SameRows { w.db with admissions := rows } := ⟨rfl, rfl, rfl, rfl, rfl, rfl⟩
    have hold : ∀ {j b}, Function.update w.admitted i none j = some b →
        j ≠ i ∧ w.admitted j = some b := by
      intro j b hb
      by_cases hj : j = i
      · subst hj
        simp at hb
      · rw [Function.update_of_ne hj] at hb
        exact ⟨hj, hb⟩
    refine ⟨⟨hrows.keyed hinv.keyed,
        ⟨hinv.dispatched.created, hinv.dispatched.once, hinv.dispatched.sent⟩,
        ⟨fun b hb => hinv.issued.admissions b (hsub b hb), hinv.issued.resolutions⟩,
        fun hclean => hrows.exclusive (hinv.exclusive hclean),
        fun hclean => hrows.consistent (hinv.consistent hclean), fun hcareful =>
          ⟨fun j b hb => ?_, fun j k b c hb hc => ?_, fun henforced row hrow hshut => ?_⟩⟩,
      ⟨fun _ _ _ => Iff.rfl, fun _ _ => rfl, fun j hj => Function.update_of_ne hj _ _,
        fun _ _ => rfl, hrows.dbStep (.refl E _ w.db),
        fun _ _ => hrows.rollbackStep ((Db.Gentle.refl w.db).rollbackStep hinv.keyed),
        fun _ => .of_eq hrows.deployments, fun r hr => .inl hr, fun _ _ hc => hc, fun _ _ hi => hi,
        fun id j _ _ hun => ⟨fun b hb => hun.1 b (hsub b hb), hun.2⟩⟩⟩
    · obtain ⟨hj, hb⟩ := hold hb
      obtain ⟨⟨row, hrow, hid, hcluster⟩, hres⟩ := (hinv.fenced hcareful).recorded j b hb
      refine ⟨⟨row, hsup row hrow fun heq => hj ?_, hid, hcluster⟩, hres⟩
      exact (hinv.fenced hcareful).distinct j i b a hb hadmitted (hid.symm.trans heq)
    · exact (hinv.fenced hcareful).distinct j k b c (hold hb).2 (hold hc).2
    · obtain ⟨hdrained, hnone⟩ := (hinv.fenced hcareful).shut henforced row hrow hshut
      exact ⟨hdrained, fun j b hb => hnone j b (hold hb).2⟩
  have hkeep := hstep w.db.admissions (fun _ hb => hb) fun _ hb _ => hb
  have hdelete := hstep (w.db.admissions.filter (·.id ≠ a.id))
    (fun b hb => (List.mem_filter.mp hb).1) fun b hb hne => List.mem_filter.mpr
      ⟨hb, by simpa using hne⟩
  cases h with
  | executed hexec _ =>
    cases hexec
    exact hdelete
  | refused hexec => cases hexec
  | failed _ => exact hkeep
  | unacknowledged _ hexec _ =>
    cases hexec
    exact hdelete

end Admissions

/-! ## Mutation requests -/

theorem send_step {Tid : Type} {E : Premises} {w : World Tid} {i : Tid} (hinv : Inv E w)
    {request : MutationRequest} (hunsent : Unsent i request.key w) :
    let w' := { w with sent := request :: w.sent }
    Inv E w' ∧ Guar E i w w' := by
  refine ⟨⟨hinv.keyed, ⟨hinv.dispatched.created, ?_, fun r hr => ?_⟩,
      ⟨hinv.issued.admissions, hinv.issued.resolutions⟩, hinv.exclusive, hinv.consistent,
      fun hcareful => ⟨(hinv.fenced hcareful).recorded, (hinv.fenced hcareful).distinct,
        (hinv.fenced hcareful).shut⟩⟩,
    { Guar.refl E i hinv with sent := fun r hr => ?_ }⟩
  · rw [List.map_cons, List.nodup_cons]
    refine ⟨fun hmem => ?_, hinv.dispatched.once⟩
    obtain ⟨r, hr, hkey⟩ := List.mem_map.mp hmem
    exact hunsent.2 r hr hkey
  · rcases List.mem_cons.mp hr with rfl | hr
    · exact ⟨i, hunsent.1⟩
    · exact hinv.dispatched.sent r hr
  · rcases List.mem_cons.mp hr with rfl | hr
    · exact .inr hunsent.1
    · exact .inl hr

end Docklane.Control
