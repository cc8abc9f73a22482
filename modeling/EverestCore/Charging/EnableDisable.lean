import EverestCore.Charging.Operations

/-!
# Enabling and disabling

The entries of the source table decide by their priority, and of equal priority a disable wins.
The state of the charger follows a change of the winner only. A call for connector 0 leaves
`connector_enabled` as it is, so that a charger that was disabled by such a call is taken out of
`Disabled` by the next one.
-/

namespace EverestCore.Charging.Charger

open EverestCore.Lib

/-! ## The table -/

variable (table : List EnableDisableSource)

/-- An entry of the smallest priority value among those that are assigned. -/
structure Wins (entry : EnableDisableSource) : Prop where
  mem : entry ∈ table
  assigned : entry.enableState ≠ .unassigned
  first : ∀ other ∈ table, other.enableState ≠ .unassigned →
    entry.enablePriority ≤ other.enablePriority

/-- The winner so far: nothing is assigned, or it is first and a disable if any first one is. -/
def Best (best : EnableDisableSource × Bool) : Prop :=
  best.2 = decide (best.1.enableState ≠ .disable) ∧
    ((best.1.enableState = .unassigned ∧ ∀ entry ∈ table, entry.enableState = .unassigned) ∨
      (Wins table best.1 ∧
        ∀ entry, Wins table entry → entry.enableState = .disable → best.1.enableState = .disable))

theorem Best.compareSource {table : List EnableDisableSource} {best : EnableDisableSource × Bool}
    (h : Best table best) (entry : EnableDisableSource) :
    Best (table ++ [entry]) (compareSource best entry) := by
  obtain ⟨hvalue, hnone | ⟨hwins, hfirst⟩⟩ := h
  · unfold Charger.compareSource
    by_cases hentry : entry.enableState = .unassigned
    · rw [if_pos hentry]
      exact ⟨hvalue, .inl ⟨hnone.1, by grind⟩⟩
    · rw [if_neg hentry, if_pos hnone.1]
      exact ⟨rfl, .inr ⟨⟨by simp, hentry, by grind⟩, by grind [Wins]⟩⟩
  · unfold Charger.compareSource
    rw [if_neg hwins.assigned]
    split_ifs with hentry heq hdisable hlt
    · exact ⟨hvalue, .inr ⟨⟨by grind [Wins], hwins.assigned, by grind [Wins]⟩, by grind [Wins]⟩⟩
    · exact ⟨by simp [hdisable], .inr ⟨⟨by simp, hentry, by grind [Wins]⟩, by grind [Wins]⟩⟩
    · exact ⟨hvalue, .inr ⟨⟨by grind [Wins], hwins.assigned, by grind [Wins]⟩, by grind [Wins]⟩⟩
    · exact ⟨rfl, .inr ⟨⟨by simp, hentry, by grind [Wins]⟩, by grind [Wins]⟩⟩
    · exact ⟨hvalue, .inr ⟨⟨by grind [Wins], hwins.assigned, by grind [Wins]⟩, by grind [Wins]⟩⟩

theorem best_parse : Best table (parseEnableDisableSourceTable table) := by
  induction table using List.reverseRecOn with
  | nil => exact ⟨rfl, .inl ⟨rfl, nofun⟩⟩
  | append_singleton table entry ih =>
    unfold parseEnableDisableSourceTable
    rw [List.foldl_concat]
    exact ih.compareSource entry

/-- A table enables exactly if none of the first entries is a disable. -/
theorem parse_eq_true_iff :
    (parseEnableDisableSourceTable table).2 = true ↔
      ∀ entry, Wins table entry → entry.enableState ≠ .disable := by
  obtain ⟨hvalue, hnone | ⟨hwins, hfirst⟩⟩ := best_parse table
  · rw [hvalue, hnone.1]
    exact iff_of_true (by decide) fun entry h => absurd (hnone.2 entry h.mem) h.assigned
  · rw [hvalue, decide_eq_true_eq]
    exact ⟨fun hne entry h hdisable => hne (hfirst entry h hdisable), fun h => h _ hwins⟩

/-! ## The state -/

variable (s : Charger)

/-- What the table says. -/
def enabled : Bool := (parseEnableDisableSourceTable s.enableDisableSourceTable).2

def enableStep (call : Int × EnableDisableSource) : Charger :=
  (s.enableDisable call.1 call.2).1

/-- A charger that is not enabled is in `Disabled`. -/
def DisabledUnlessEnabled : Prop :=
  s.enabled = false → s.shared.currentState = .disabled

/-- A call for connector 0, with the connector enabled and a table that disables, changes the
table to one that enables. -/
def NotDisabledAgain (call : Int × EnableDisableSource) : Prop :=
  call.1 = 0 → s.shared.connectorEnabled = true → s.enabled = false →
    (parseEnableDisableSourceTable
      (enableDisableSourceTableUpdate call.2 s.enableDisableSourceTable)).2 = true
deriving Decidable

/-- The active source is the winner of the table. -/
def Active : Prop :=
  s.activeEnableDisableSource = (parseEnableDisableSourceTable s.enableDisableSourceTable).1

section

variable (s : Charger) (call : Int × EnableDisableSource)

theorem table_enableStep : (s.enableStep call).enableDisableSourceTable =
    enableDisableSourceTableUpdate call.2 s.enableDisableSourceTable := by
  unfold enableStep enableDisable
  dsimp only
  split_ifs <;> rfl

theorem enabled_enableStep : (s.enableStep call).enabled = (parseEnableDisableSourceTable
    (enableDisableSourceTableUpdate call.2 s.enableDisableSourceTable)).2 := by
  rw [enabled, table_enableStep]

theorem enableDisable_snd : (s.enableDisable call.1 call.2).2 = (s.enableStep call).enabled := by
  rw [enabled_enableStep]
  rfl

theorem active_enableStep : (s.enableStep call).Active := by
  unfold enableStep enableDisable
  dsimp only
  split_ifs <;> rfl

theorem enabled_eq : s.enabled = decide
    ((parseEnableDisableSourceTable s.enableDisableSourceTable).1.enableState ≠ .disable) :=
  (best_parse _).1

variable {s} {call}

/-- The state after a call that leaves the charger disabled. -/
theorem currentState_enableStep (hactive : s.Active) (hstate : s.DisabledUnlessEnabled)
    (hdisabled : (s.enableStep call).enabled = false) :
    (s.enableStep call).shared.currentState = .disabled ↔
      ¬ (call.1 = 0 ∧ s.shared.connectorEnabled = true ∧ s.enabled = false) := by
  have hwinner := hdisabled
  rw [enabled_eq, table_enableStep, decide_eq_false_iff_not, not_not] at hwinner
  rw [enabled_enableStep] at hdisabled
  have hlast := s.enabled_eq
  rw [← hactive] at hlast
  unfold enableStep enableDisable
  dsimp only
  rw [hdisabled, hwinner]
  cases henabled : s.enabled with
  | true =>
    have hchanged : disableChanged s.activeEnableDisableSource.enableState .disable = true := by
      rw [henabled, eq_comm, decide_eq_true_eq] at hlast
      simp [disableChanged, Ne.symm hlast]
    rw [if_pos hchanged, if_neg Bool.false_ne_true]
    exact iff_of_true rfl fun h => Bool.false_ne_true h.2.2.symm
  | false =>
    have hsame : s.activeEnableDisableSource.enableState = .disable := by
      rw [henabled, eq_comm, decide_eq_false_iff_not, not_not] at hlast
      exact hlast
    rw [hsame, hstate henabled, if_neg (by decide : ¬ disableChanged .disable .disable = true)]
    by_cases hzero : call.1 = 0
    · cases s.shared.connectorEnabled with
      | true => simp [hzero, setState, emit]
      | false => simp [hzero, emit]
    · simp [hzero, emit]

theorem disabledUnlessEnabled_step_iff (hactive : s.Active) (hstate : s.DisabledUnlessEnabled)
    (call : Int × EnableDisableSource) :
    (s.enableStep call).DisabledUnlessEnabled ↔ s.NotDisabledAgain call := by
  unfold DisabledUnlessEnabled NotDisabledAgain
  rw [← enabled_enableStep]
  cases henabled : (s.enableStep call).enabled with
  | true => exact iff_of_true nofun fun _ _ _ => rfl
  | false =>
    rw [currentState_enableStep hactive hstate henabled]
    constructor
    · exact fun h hzero hconnector hdisabled => absurd ⟨hzero, hconnector, hdisabled⟩ (h rfl)
    · intro h _ hagain
      cases h hagain.1 hagain.2.1 hagain.2.2

end

/-- **Disable wins**: a call returns what the entries of the smallest priority value say, and
the charger is in `Disabled` whenever it is not enabled exactly in the runs without a call that
disables it again. -/
theorem disable_wins_iff (hactive : s.Active) (hstate : s.DisabledUnlessEnabled)
    (calls : List (Int × EnableDisableSource)) :
    (∀ (t : Charger) (call : Int × EnableDisableSource),
      (t.enableDisable call.1 call.2).2 = (t.enableStep call).enabled ∧
      ((t.enableDisable call.1 call.2).2 = true ↔ ∀ entry,
        Wins (t.enableStep call).enableDisableSourceTable entry → entry.enableState ≠ .disable)) ∧
    (Always enableStep DisabledUnlessEnabled s calls ↔
      Along enableStep NotDisabledAgain s calls) := by
  refine ⟨fun t call => ⟨t.enableDisable_snd call, ?_⟩, ?_⟩
  · rw [enableDisable_snd]
    exact parse_eq_true_iff _
  · exact always_iff_along (I := Active) (fun t call _ _ _ => t.active_enableStep call)
      (fun t call hactive hstate => disabledUnlessEnabled_step_iff hactive hstate call)
      calls hactive hstate

/-- A key lock disables connector 1, and enables it again. -/
theorem disabled_and_enabled :
    Always enableStep DisabledUnlessEnabled ({} : Charger)
      [(1, ⟨.localKeyLock, .disable, 100⟩), (1, ⟨.localKeyLock, .enable, 100⟩)] :=
  (disable_wins_iff {} rfl nofun _).2.mpr (by decide)

/-- Connector 0 is disabled twice: the second call brings the charger back to `Idle`. -/
theorem disabled_twice_is_idle :
    let s := run enableStep ({} : Charger)
      [(0, ⟨.localKeyLock, .disable, 100⟩), (0, ⟨.localKeyLock, .disable, 100⟩)]
    s.enabled = false ∧ s.shared.currentState = .idle := by
  decide

end EverestCore.Charging.Charger
