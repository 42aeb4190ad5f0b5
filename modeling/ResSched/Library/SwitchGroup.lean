import ResSched.Library.WriteLog

/-! # Groups of switches

What a log of on and off writes does to a group of switches, decided from the log alone.
-/

namespace SwitchGroup

variable {κ : Type*} [DecidableEq κ]

/-- The log leaves every switch of the group alone. -/
def Keeps (group : List κ) (log : List (κ × Bool)) : Prop :=
  ∀ k ∈ group, ∀ write ∈ log, write.1 ≠ k

/-- The log turns every switch of the group off. -/
def Clears (group : List κ) (log : List (κ × Bool)) : Prop :=
  ∀ k ∈ group, k ∈ log.map Prod.fst ∧ ∀ write ∈ log, write.1 = k → write.2 = false

/-- The log turns `chosen` on and no other switch of the group. -/
def RaisesOnly (group : List κ) (chosen : κ) (log : List (κ × Bool)) : Prop :=
  chosen ∈ log.map Prod.fst ∧
    ∀ k ∈ group, ∀ write ∈ log, write.1 = k → write.2 = decide (k = chosen)

/-- The log turns `chosen` on and the other switches of the group off. -/
def SwitchesTo (group : List κ) (chosen : κ) (log : List (κ × Bool)) : Prop :=
  RaisesOnly group chosen log ∧ ∀ k ∈ group, k ∈ log.map Prod.fst

instance (group : List κ) (log : List (κ × Bool)) : Decidable (Keeps group log) :=
  inferInstanceAs (Decidable (∀ k ∈ group, ∀ write ∈ log, write.1 ≠ k))

instance (group : List κ) (log : List (κ × Bool)) : Decidable (Clears group log) :=
  inferInstanceAs (Decidable (∀ k ∈ group, k ∈ log.map Prod.fst ∧
    ∀ write ∈ log, write.1 = k → write.2 = false))

instance (group : List κ) (chosen : κ) (log : List (κ × Bool)) :
    Decidable (RaisesOnly group chosen log) :=
  inferInstanceAs (Decidable (_ ∧ ∀ k ∈ group, ∀ write ∈ log, write.1 = k →
    write.2 = decide (k = chosen)))

instance (group : List κ) (chosen : κ) (log : List (κ × Bool)) :
    Decidable (SwitchesTo group chosen log) :=
  inferInstanceAs (Decidable (_ ∧ ∀ k ∈ group, k ∈ log.map Prod.fst))

/-! ## Logs around a log that keeps the group -/

omit [DecidableEq κ] in
theorem Keeps.append {group : List κ} {log later : List (κ × Bool)} (h : Keeps group log)
    (hlater : Keeps group later) : Keeps group (log ++ later) := by
  intro k hk write hwrite
  rcases List.mem_append.mp hwrite with hwrite | hwrite
  · exact h k hk write hwrite
  · exact hlater k hk write hwrite

theorem RaisesOnly.append_keeps {group : List κ} {chosen : κ} {log later : List (κ × Bool)}
    (h : RaisesOnly group chosen log) (hlater : Keeps group later) :
    RaisesOnly group chosen (log ++ later) := by
  refine ⟨?_, ?_⟩
  · rw [List.map_append]
    exact List.mem_append_left _ h.1
  · intro k hk write hwrite heq
    rcases List.mem_append.mp hwrite with hwrite | hwrite
    · exact h.2 k hk write hwrite heq
    · exact absurd heq (hlater k hk write hwrite)

theorem RaisesOnly.keeps_append {group : List κ} {chosen : κ} {log before : List (κ × Bool)}
    (h : RaisesOnly group chosen log) (hbefore : Keeps group before) :
    RaisesOnly group chosen (before ++ log) := by
  refine ⟨?_, ?_⟩
  · rw [List.map_append]
    exact List.mem_append_right _ h.1
  · intro k hk write hwrite heq
    rcases List.mem_append.mp hwrite with hwrite | hwrite
    · exact absurd heq (hbefore k hk write hwrite)
    · exact h.2 k hk write hwrite heq

theorem SwitchesTo.append_keeps {group : List κ} {chosen : κ} {log later : List (κ × Bool)}
    (h : SwitchesTo group chosen log) (hlater : Keeps group later) :
    SwitchesTo group chosen (log ++ later) := by
  refine ⟨h.1.append_keeps hlater, ?_⟩
  intro k hk
  rw [List.map_append]
  exact List.mem_append_left _ (h.2 k hk)

theorem SwitchesTo.keeps_append {group : List κ} {chosen : κ} {log before : List (κ × Bool)}
    (h : SwitchesTo group chosen log) (hbefore : Keeps group before) :
    SwitchesTo group chosen (before ++ log) := by
  refine ⟨h.1.keeps_append hbefore, ?_⟩
  intro k hk
  rw [List.map_append]
  exact List.mem_append_right _ (h.2 k hk)

/-! ## The switches after the log -/

theorem Keeps.apply_eq {group : List κ} {log : List (κ × Bool)} (h : Keeps group log)
    (active : κ → Bool) (k : κ) (hk : k ∈ group) :
    WriteLog.apply log active k = active k := by
  refine WriteLog.apply_of_notMem log active k ?_
  intro hmem
  obtain ⟨write, hwrite, heq⟩ := List.mem_map.mp hmem
  exact h k hk write hwrite heq

theorem Clears.apply_eq {group : List κ} {log : List (κ × Bool)} (h : Clears group log)
    (active : κ → Bool) (k : κ) (hk : k ∈ group) :
    WriteLog.apply log active k = false :=
  WriteLog.apply_induction log active k (fun on => on = false)
    (fun hnot => absurd (h k hk).1 hnot) (h k hk).2

theorem RaisesOnly.apply_chosen {group : List κ} {chosen : κ} {log : List (κ × Bool)}
    (h : RaisesOnly group chosen log) (hchosen : chosen ∈ group) (active : κ → Bool) :
    WriteLog.apply log active chosen = true := by
  refine WriteLog.apply_induction log active chosen (fun on => on = true)
    (fun hnot => absurd h.1 hnot) ?_
  intro write hwrite heq
  simpa using h.2 chosen hchosen write hwrite heq

/-- A switch that is on after the log is the chosen one or was on before. -/
theorem RaisesOnly.of_apply {group : List κ} {chosen : κ} {log : List (κ × Bool)}
    (h : RaisesOnly group chosen log) (active : κ → Bool) (k : κ) (hk : k ∈ group) :
    WriteLog.apply log active k = true → k = chosen ∨ active k = true := by
  refine WriteLog.apply_induction log active k
    (fun on => on = true → k = chosen ∨ active k = true) (fun _ hon => Or.inr hon) ?_
  intro write hwrite heq hon
  rw [h.2 k hk write hwrite heq] at hon
  exact Or.inl (by simpa using hon)

theorem SwitchesTo.apply_eq {group : List κ} {chosen : κ} {log : List (κ × Bool)}
    (h : SwitchesTo group chosen log) (active : κ → Bool) (k : κ) (hk : k ∈ group) :
    WriteLog.apply log active k = decide (k = chosen) :=
  WriteLog.apply_induction log active k (fun on => on = decide (k = chosen))
    (fun hnot => absurd (h.2 k hk) hnot) (h.1.2 k hk)

end SwitchGroup
