import FundsTransfer.Instruction.Progress

/-!
# What a word does to a reading

Whatever the stage, a word leaves a reading as it is, enters one part or reports one breach.  What
none of these can destroy holds of every reading.

Main definitions:

- `Reading.Change`: what a word can do to a reading.
- `Reading.HasProperAmount`: the readings whose amount is positive.

Main results:

- Theorem `onward_or_halt_of_read`: a word changes a reading and leads on, or it ends the reading.
- Theorem `change_of_read`: a word does nothing else to a reading.
- Theorem `position_of_read`: a word that does not end the reading leads one position further.
- Theorem `invariant_of_ofText`: what holds of the empty reading and survives every change holds of
  the reading of every instruction.
- Theorem `amount_pos_of_ofText`: an amount that was read is positive.
-/

namespace FundsTransfer

/-! ## One word -/

/-- A computation that is carried on has an outcome only if it had one before. -/
theorem exists_eq_ok_of_map {α β : Type} {f : α → β} {computed : Except Fault α} {b : β}
    (hmap : computed.map f = .ok b) : ∃ a, computed = .ok a ∧ f a = b := by
  cases computed with
  | error fault => cases hmap
  | ok a => exact ⟨a, rfl, Except.ok.inj hmap⟩

namespace Reading

/-- What a word can do to a reading. -/
inductive Change (word : String) (reading : Reading) : Reading → Prop where
  /-- A keyword in its place enters nothing. -/
  | keyword : Change word reading reading
  | heading {side : Direction} (hside : Text.upper word = side.keyword) :
      Change word reading { reading with heading := some (.side side) }
  | amount {n : Nat} (hamount : readAmount word = .ok (some n)) :
      Change word reading { reading with amount := some (n : Int) }
  | currency : Change word reading { reading with currency := some (Text.upper word) }
  | account (side : Direction) : Change word reading (reading.withAccount side word)
  | date (hdate : Calendar.isWellFormedDate word = true) :
      Change word reading { reading with executeBy := some word }
  | breach (breach : Breach) : Change word reading (reading.report breach)

end Reading

/-- An amount is entered, or a breach is reported. -/
theorem change_withAmount {word : String} {amount : Option Nat} (reading : Reading)
    (hamount : readAmount word = .ok amount) : reading.Change word (reading.withAmount amount) := by
  cases amount with
  | none => exact .breach .badAmount
  | some n => exact .amount hamount

/-- A date is entered, or a breach is reported. -/
theorem change_withDate (word : String) (reading : Reading) :
    reading.Change word (reading.withDate word) := by
  unfold Reading.withDate
  split
  · rename_i hdate
    exact .date hdate
  · exact .breach .badDate

/-- A word in its place changes the reading and leads to the next stage; any other ends the reading. -/
theorem onward_or_halt_of_read {stage : Stage} {word : String} {reading : Reading}
    {progress : Progress} (hread : stage.read word reading = .ok progress) :
    (∃ later, reading.Change word later ∧ progress = .onward stage.next later) ∨
      ∃ breach, progress = .halt reading breach := by
  unfold Stage.read at hread
  split at hread
  · split at hread
    · rename_i side hside
      cases hread
      exact Or.inl ⟨_, .heading (Direction.ofKeyword?_eq_some_iff.1 hside), rfl⟩
    · cases hread
      exact Or.inr ⟨_, rfl⟩
  · rcases exists_eq_ok_of_map hread with ⟨amount, hamount, rfl⟩
    exact Or.inl ⟨_, change_withAmount reading hamount, rfl⟩
  · cases hread
    exact Or.inl ⟨_, .currency, rfl⟩
  · split at hread
    · cases hread
      exact Or.inl ⟨_, .keyword, rfl⟩
    · cases hread
      exact Or.inr ⟨_, rfl⟩
  · cases hread
    exact Or.inl ⟨_, .account _, rfl⟩
  · cases hread
    exact Or.inl ⟨_, change_withDate word reading, rfl⟩
  · cases hread
    exact Or.inr ⟨_, rfl⟩

/-- A word changes a reading in one of these ways, at whatever stage it is met. -/
theorem change_of_read {stage : Stage} {word : String} {reading : Reading} {progress : Progress}
    (hread : stage.read word reading = .ok progress) : reading.Change word progress.reading := by
  rcases onward_or_halt_of_read hread with ⟨later, hchange, rfl⟩ | ⟨breach, rfl⟩
  · exact hchange
  · exact .breach breach

/-- A word that does not end the reading leads to the next stage. -/
theorem stage_of_read {stage next : Stage} {word : String} {reading : Reading} {progress : Progress}
    (hread : stage.read word reading = .ok progress) (hnext : next ∈ progress.stage) :
    next = stage.next := by
  rcases onward_or_halt_of_read hread with ⟨later, _, rfl⟩ | ⟨breach, rfl⟩
  · exact (Option.some.inj hnext).symm
  · cases hnext

/-- A word that does not end the reading leads one position further. -/
theorem position_of_read {stage next : Stage} {word : String} {reading : Reading}
    {progress : Progress} (hread : stage.read word reading = .ok progress)
    (hnext : next ∈ progress.stage) : next.position = stage.position + 1 := by
  have hincomplete : stage ≠ .complete := by
    rintro rfl
    cases hread
    cases hnext
  rw [stage_of_read hread hnext, Stage.position_next hincomplete]

/-! ## All words -/

section Invariant

variable {P : Reading → Prop}
  (hchange : ∀ word reading later, P reading → Reading.Change word reading later → P later)
include hchange

/-- What every change preserves is preserved by a list of words, from whatever stage on. -/
theorem invariant_of_advance {stage : Stage} {reading : Reading} {words : List String}
    {progress : Progress} (hP : P reading) (hadvance : advance stage reading words = .ok progress) :
    P progress.reading := by
  induction words generalizing stage reading with
  | nil =>
      rw [advance_nil] at hadvance
      cases hadvance
      exact hP
  | cons word rest ih =>
      rw [advance] at hadvance
      split at hadvance
      · rename_i next later hread
        have hlater : P later := hchange word reading later hP (change_of_read hread)
        exact ih hlater hadvance
      · rename_i later hread
        cases hadvance
        exact hchange word reading later hP (change_of_read hread)
      · cases hadvance

/-- What holds of the empty reading and survives every change holds of every reading. -/
theorem invariant_of_ofText (hempty : P {}) {text : String} {reading : Reading}
    (hread : Reading.ofText text = .ok reading) : P reading := by
  rcases exists_eq_ok_of_map hread with ⟨progress, hadvance, rfl⟩
  have hprogress : P progress.reading := invariant_of_advance hchange hempty hadvance
  unfold Progress.finish
  split
  · unfold Reading.close
    split
    · exact hprogress
    · exact hchange "" _ _ hprogress (.breach .malformed)
  · exact hprogress

end Invariant

/-! ## Amounts -/

/-- A word that states an amount states a positive one. -/
theorem pos_of_readAmount {word : String} {n : Nat} (hamount : readAmount word = .ok (some n)) :
    0 < n := by
  unfold readAmount at hamount
  split at hamount
  · cases hamount
  · dsimp only at hamount
    split at hamount
    · cases hamount
    · split at hamount
      · cases hamount
      · rename_i hproper
        cases hamount
        simp only [Bool.or_eq_true, beq_iff_eq, not_or] at hproper
        exact Nat.pos_of_ne_zero hproper.2

/-- A reading states no amount or that of a word. -/
def Reading.HasAmountOfWord (reading : Reading) : Prop :=
  ∀ amount, reading.amount = some amount →
    ∃ word n, readAmount word = .ok (some n) ∧ amount = (n : Int)

/-- Whatever a word does, the amount stays that of a word. -/
theorem hasAmountOfWord_of_change {word : String} {reading later : Reading}
    (hstated : reading.HasAmountOfWord) (hchange : reading.Change word later) :
    later.HasAmountOfWord := by
  intro amount hamount
  cases hchange with
  | amount hword =>
      cases hamount
      exact ⟨word, _, hword, rfl⟩
  | account side => cases side <;> exact hstated amount hamount
  | _ => exact hstated amount hamount

/-- An amount that was read of an instruction is that of a word. -/
theorem exists_readAmount_of_ofText {text : String} {reading : Reading} {amount : Int}
    (hread : Reading.ofText text = .ok reading) (hamount : reading.amount = some amount) :
    ∃ word n, readAmount word = .ok (some n) ∧ amount = (n : Int) := by
  have hempty : Reading.HasAmountOfWord {} := by
    intro amount hnone
    cases hnone
  have hstated : reading.HasAmountOfWord :=
    invariant_of_ofText (fun _ _ _ => hasAmountOfWord_of_change) hempty hread
  exact hstated amount hamount

/-- An amount that was read of an instruction is positive. -/
theorem amount_pos_of_ofText {text : String} {reading : Reading} {amount : Int}
    (hread : Reading.ofText text = .ok reading) (hamount : reading.amount = some amount) :
    0 < amount := by
  obtain ⟨word, n, hword, rfl⟩ := exists_readAmount_of_ofText hread hamount
  exact Int.natCast_pos.2 (pos_of_readAmount hword)

end FundsTransfer
