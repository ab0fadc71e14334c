import FundsTransfer.Proofs.Diagnosis
import FundsTransfer.Proofs.Progress

/-!
# Words that go on

What has been read of the first words of an instruction is not revised when more words follow.  Each
part is entered once, in its place, and until then it is open; so no part is ever overwritten.
Breaches are only added.  The one thing that more words can take back is that there were too few.

Main definitions:

- `Reading.KeptBy`: the parts of a reading are those of a later one, as far as they are known.
- `Reading.OpenFrom`: the parts that stand at a position or behind it are not known yet.
- `Reading.FillsAt`: a reading after the word at a position, which overwrites nothing.

Main results:

- Theorem `fillsAt_of_read`: a word overwrites no part, and it leaves the parts behind it open.
- Theorem `keptBy_of_advance`: nor does a list of words overwrite a part.
- Theorem `ofWords_append_keeps`: what is read of an instruction that goes on.
- Theorem `eq_malformed_of_accountId_ne_none`: what may still be wrong when both ids are known.
-/

namespace FundsTransfer

namespace Reading

/-! ## Parts that are kept and parts that are open -/

/-- The parts of a reading, as far as they are known, are those of a later one. -/
structure KeptBy (reading later : Reading) : Prop where
  heading : ∀ heading ∈ reading.heading, later.heading = some heading
  amount : ∀ amount ∈ reading.amount, later.amount = some amount
  currency : ∀ currency ∈ reading.currency, later.currency = some currency
  debitId : ∀ id ∈ reading.debitId, later.debitId = some id
  creditId : ∀ id ∈ reading.creditId, later.creditId = some id
  executeBy : ∀ date ∈ reading.executeBy, later.executeBy = some date

/-- The parts that stand at a position of an instruction or behind it are not known yet. -/
structure OpenFrom (reading : Reading) (position : Nat) : Prop where
  heading_eq : position ≤ 0 → reading.heading = none
  amount_eq : position ≤ 1 → reading.amount = none
  currency_eq : position ≤ 2 → reading.currency = none
  leadId_eq : position ≤ 5 → reading.accountId reading.lead = none
  otherId_eq : position ≤ 10 → reading.accountId reading.lead.opposite = none
  executeBy_eq : position ≤ 12 → reading.executeBy = none

/-- A reading after the word at a position: what was known is kept, and what stands behind the
position is open. -/
structure FillsAt (reading : Reading) (position : Nat) (later : Reading) : Prop where
  keptBy : reading.KeptBy later
  openFrom : later.OpenFrom (position + 1)

variable {reading later last : Reading} {position : Nat}

/-- Every reading keeps its own parts. -/
theorem KeptBy.refl (reading : Reading) : reading.KeptBy reading :=
  ⟨fun _ h => h, fun _ h => h, fun _ h => h, fun _ h => h, fun _ h => h, fun _ h => h⟩

/-- What is kept by a reading is kept by every one that keeps its parts. -/
theorem KeptBy.trans (hkept : reading.KeptBy later) (hlater : later.KeptBy last) :
    reading.KeptBy last where
  heading part hpart := hlater.heading part (hkept.heading part hpart)
  amount part hpart := hlater.amount part (hkept.amount part hpart)
  currency part hpart := hlater.currency part (hkept.currency part hpart)
  debitId part hpart := hlater.debitId part (hkept.debitId part hpart)
  creditId part hpart := hlater.creditId part (hkept.creditId part hpart)
  executeBy part hpart := hlater.executeBy part (hkept.executeBy part hpart)

/-- A report changes no part. -/
theorem keptBy_report (reading : Reading) (breach : Breach) :
    reading.KeptBy (reading.report breach) ∧ (reading.report breach).KeptBy reading :=
  ⟨⟨fun _ h => h, fun _ h => h, fun _ h => h, fun _ h => h, fun _ h => h, fun _ h => h⟩,
    ⟨fun _ h => h, fun _ h => h, fun _ h => h, fun _ h => h, fun _ h => h, fun _ h => h⟩⟩

/-- At the start everything is open. -/
theorem openFrom_empty (position : Nat) : OpenFrom {} position :=
  ⟨fun _ => rfl, fun _ => rfl, fun _ => rfl, fun _ => rfl, fun _ => rfl, fun _ => rfl⟩

/-- What is open from a position on is open from every later one on. -/
theorem OpenFrom.of_le {position' : Nat} (hopen : reading.OpenFrom position)
    (hle : position ≤ position') : reading.OpenFrom position' where
  heading_eq h := hopen.heading_eq (Nat.le_trans hle h)
  amount_eq h := hopen.amount_eq (Nat.le_trans hle h)
  currency_eq h := hopen.currency_eq (Nat.le_trans hle h)
  leadId_eq h := hopen.leadId_eq (Nat.le_trans hle h)
  otherId_eq h := hopen.otherId_eq (Nat.le_trans hle h)
  executeBy_eq h := hopen.executeBy_eq (Nat.le_trans hle h)

/-- In front of the first account no id is known, whichever side comes first. -/
theorem OpenFrom.accountId_eq (hopen : reading.OpenFrom position) (hle : position ≤ 5)
    (side : Direction) : reading.accountId side = none := by
  have hlead := hopen.leadId_eq hle
  have hother := hopen.otherId_eq (by omega)
  cases hside : reading.lead <;> rw [hside] at hlead hother <;> cases side <;> assumption

/-! ## Filling one part -/

/-- A keyword fills no part. -/
theorem fillsAt_self (hopen : reading.OpenFrom position) : reading.FillsAt position reading :=
  ⟨.refl reading, hopen.of_le (Nat.le_succ position)⟩

/-- A breach fills no part. -/
theorem fillsAt_report (hopen : reading.OpenFrom position) (breach : Breach) :
    reading.FillsAt position (reading.report breach) := by
  rcases hopen.of_le (Nat.le_succ position) with ⟨h0, h1, h2, h5, h10, h12⟩
  exact ⟨(keptBy_report reading breach).1, ⟨h0, h1, h2, h5, h10, h12⟩⟩

/-- The first word fills the heading.  It decides which account comes first, but neither is known. -/
theorem fillsAt_heading (hopen : reading.OpenFrom 0) (heading : Heading) :
    reading.FillsAt 0 { reading with heading := some heading } := by
  have hids := hopen.accountId_eq (by omega)
  refine ⟨{ KeptBy.refl reading with heading := ?_ }, ?_⟩
  · intro part hpart
    rw [hopen.heading_eq (by omega)] at hpart
    cases hpart
  · exact
      { hopen.of_le (Nat.le_succ 0) with
        heading_eq := by omega
        leadId_eq := fun _ => hids _
        otherId_eq := fun _ => hids _ }

/-- The second word fills the amount, or is reported. -/
theorem fillsAt_withAmount (hopen : reading.OpenFrom 1) (amount : Option Nat) :
    reading.FillsAt 1 (reading.withAmount amount) := by
  cases amount with
  | none => exact fillsAt_report hopen .badAmount
  | some n =>
      refine ⟨{ KeptBy.refl reading with amount := ?_ }, ?_⟩
      · intro part hpart
        rw [hopen.amount_eq (by omega)] at hpart
        cases hpart
      · exact { hopen.of_le (Nat.le_succ 1) with amount_eq := by omega }

/-- The third word fills the currency. -/
theorem fillsAt_currency (hopen : reading.OpenFrom 2) (currency : String) :
    reading.FillsAt 2 { reading with currency := some currency } := by
  refine ⟨{ KeptBy.refl reading with currency := ?_ }, ?_⟩
  · intro part hpart
    rw [hopen.currency_eq (by omega)] at hpart
    cases hpart
  · exact { hopen.of_le (Nat.le_succ 2) with currency_eq := by omega }

/-- An account that is entered on a side where none is known overwrites nothing. -/
theorem keptBy_withAccount {side : Direction} (hvacant : reading.accountId side = none)
    (id : String) : reading.KeptBy (reading.withAccount side id) := by
  cases side with
  | debit =>
      refine { KeptBy.refl reading with debitId := ?_ }
      intro part hpart
      cases hvacant.symm.trans hpart
  | credit =>
      refine { KeptBy.refl reading with creditId := ?_ }
      intro part hpart
      cases hvacant.symm.trans hpart

@[simp]
theorem executeBy_withAccount (reading : Reading) (side : Direction) (id : String) :
    (reading.withAccount side id).executeBy = reading.executeBy := by
  cases side <;> rfl

/-- The first id is that of the account on the side of the instruction. -/
theorem fillsAt_withAccount_lead (hopen : reading.OpenFrom 5) (id : String) :
    reading.FillsAt 5 (reading.withAccount reading.lead id) where
  keptBy := keptBy_withAccount (hopen.leadId_eq (by omega)) id
  openFrom :=
    { heading_eq := by omega
      amount_eq := by omega
      currency_eq := by omega
      leadId_eq := by omega
      otherId_eq := fun _ => by simpa using hopen.otherId_eq (by omega)
      executeBy_eq := fun _ => by simpa using hopen.executeBy_eq (by omega) }

/-- The second id is that of the account on the other side. -/
theorem fillsAt_withAccount_opposite (hopen : reading.OpenFrom 10) (id : String) :
    reading.FillsAt 10 (reading.withAccount reading.lead.opposite id) where
  keptBy := keptBy_withAccount (hopen.otherId_eq (by omega)) id
  openFrom :=
    { heading_eq := by omega
      amount_eq := by omega
      currency_eq := by omega
      leadId_eq := by omega
      otherId_eq := by omega
      executeBy_eq := fun _ => by simpa using hopen.executeBy_eq (by omega) }

/-- The last word fills the date, or is reported. -/
theorem fillsAt_withDate (hopen : reading.OpenFrom 12) (word : String) :
    reading.FillsAt 12 (reading.withDate word) := by
  unfold withDate
  split
  · refine ⟨{ KeptBy.refl reading with executeBy := ?_ }, ?_⟩
    · intro part hpart
      rw [hopen.executeBy_eq (by omega)] at hpart
      cases hpart
    · exact { hopen.of_le (Nat.le_succ 12) with executeBy_eq := by omega }
  · exact fillsAt_report hopen .badDate

end Reading

/-! ## One word -/

/-- A word in the slot of a keyword fills no part, whether it is the keyword or not. -/
theorem fillsAt_of_read_keyword {stage : Stage} {expected : Direction → String} {breach : Breach}
    {word : String} {reading : Reading} {progress : Progress}
    (hslot : stage.slot = .keyword expected breach)
    (hopen : reading.OpenFrom stage.position)
    (hread : stage.read word reading = .ok progress) :
    reading.FillsAt stage.position progress.reading := by
  simp only [Stage.read, hslot] at hread
  split at hread
  · cases hread
    exact Reading.fillsAt_self hopen
  · cases hread
    exact Reading.fillsAt_report hopen breach

/-- A word overwrites no part, and it leaves the parts behind its position open. -/
theorem fillsAt_of_read {stage : Stage} {word : String} {reading : Reading} {progress : Progress}
    (hopen : reading.OpenFrom stage.position) (hread : stage.read word reading = .ok progress) :
    reading.FillsAt stage.position progress.reading := by
  cases stage with
  | start =>
      simp only [Stage.read, Stage.slot] at hread
      split at hread
      · cases hread
        exact Reading.fillsAt_heading hopen _
      · cases hread
        exact Reading.fillsAt_report hopen _
  | direction =>
      rcases exists_eq_ok_of_map hread with ⟨amount, _, rfl⟩
      exact Reading.fillsAt_withAmount hopen amount
  | amount =>
      cases hread
      exact Reading.fillsAt_currency hopen _
  | firstAccountKeyword =>
      cases hread
      exact Reading.fillsAt_withAccount_lead hopen word
  | secondAccountKeyword =>
      cases hread
      exact Reading.fillsAt_withAccount_opposite hopen word
  | dateKeyword =>
      cases hread
      exact Reading.fillsAt_withDate hopen word
  | date =>
      cases hread
      exact Reading.fillsAt_report hopen .malformed
  | complete =>
      cases hread
      exact Reading.fillsAt_report hopen .malformed
  | _ => exact fillsAt_of_read_keyword rfl hopen hread

/-! ## All words -/

/-- No list of words overwrites a part, and the parts behind them stay open. -/
theorem keptBy_of_advance {stage : Stage} {reading : Reading} {words : List String}
    {progress : Progress} (hopen : reading.OpenFrom stage.position)
    (hadvance : advance stage reading words = .ok progress) :
    reading.KeptBy progress.reading ∧
      ∀ next ∈ progress.stage, progress.reading.OpenFrom next.position := by
  induction words generalizing stage reading with
  | nil =>
      cases hadvance
      refine ⟨.refl reading, ?_⟩
      rintro next ⟨⟩
      exact hopen
  | cons word rest ih =>
      rw [advance] at hadvance
      split at hadvance
      · rename_i next later hread
        have hfills := fillsAt_of_read hopen hread
        have hopenLater : later.OpenFrom next.position := by
          rw [position_of_read hread rfl]
          exact hfills.openFrom
        rcases ih hopenLater hadvance with ⟨hkept, hrest⟩
        exact ⟨hfills.keptBy.trans hkept, hrest⟩
      · rename_i later hread
        cases hadvance
        refine ⟨(fillsAt_of_read hopen hread).keptBy, ?_⟩
        rintro next ⟨⟩
      · cases hadvance

/-- A word takes back no breach. -/
theorem breaches_prefix_of_change {word : String} {reading later : Reading}
    (hchange : reading.Change word later) : reading.breaches <+: later.breaches := by
  cases hchange with
  | account side => cases side <;> exact List.prefix_refl _
  | breach breach => exact List.prefix_append _ _
  | _ => exact List.prefix_refl _

/-- No list of words takes back a breach. -/
theorem breaches_prefix_of_advance {stage : Stage} {reading : Reading} {words : List String}
    {progress : Progress} (hadvance : advance stage reading words = .ok progress) :
    reading.breaches <+: progress.reading.breaches := by
  refine invariant_of_advance (P := fun later => reading.breaches <+: later.breaches) ?_
    (List.prefix_refl _) hadvance
  intro word front later hfront hchange
  exact hfront.trans (breaches_prefix_of_change hchange)

/-! ## The end of the words -/

/-- The end of the words changes no part. -/
theorem keptBy_finish (progress : Progress) :
    progress.reading.KeptBy progress.finish ∧ progress.finish.KeptBy progress.reading := by
  have hself : progress.reading.KeptBy progress.reading := .refl _
  unfold Progress.finish
  split
  · unfold Reading.close
    split
    · exact ⟨hself, hself⟩
    · exact Reading.keptBy_report _ _
  · exact ⟨hself, hself⟩

/-- The end of the words takes back no breach. -/
theorem breaches_prefix_finish (progress : Progress) :
    progress.reading.breaches <+: progress.finish.breaches := by
  cases hstage : progress.stage with
  | none => simp only [Progress.finish, hstage, List.prefix_rfl]
  | some stage => simp only [breaches_finish hstage, List.prefix_append]

/-! ## Behind the second account -/

/-- A word behind the second account that does not fit makes the instruction malformed. -/
theorem eq_malformed_of_misfit? {lead : Direction} {position : Nat} {word : String}
    {breach : Breach} (hbehind : 10 < position) (hmisfit : misfit? lead position word = some breach) :
    breach = .malformed := by
  unfold misfit? at hmisfit
  split at hmisfit <;> try omega
  · exact eq_of_unlessKeyword_eq_some hmisfit
  · cases hmisfit
    rfl
  · cases hmisfit

/-- The breach that makes some words unreadable is that they are malformed if both ids were read. -/
theorem eq_malformed_of_accountId_ne_none {words : List String} {reading : Reading}
    {breach : Breach} (hread : Reading.ofWords words = .ok reading)
    (hids : ∀ side, reading.accountId side ≠ none) (hbreach : breach ∈ reading.breaches)
    (hunreadable : breach.code.isUnreadable = true) : breach = .malformed := by
  have hno : ∀ {front : List String}, breach ∉ lapses front := by
    intro front hlapse
    rw [isUnreadable_of_mem_lapses hlapse] at hunreadable
    cases hunreadable
  rcases keepsTemplate_or_breaksFirst words with hkeeps | ⟨position, first, hfirst⟩
  · rw [breaches_of_keepsTemplate hkeeps hread, List.mem_append, mem_reportIf] at hbreach
    exact (hbreach.resolve_left hno).2
  · obtain ⟨front, word, later, rfl, rfl, hkeeps, hmisfit⟩ := hfirst.exists_eq_append
    rw [breaches_of_breach hkeeps hmisfit hread, List.mem_append, List.mem_singleton] at hbreach
    obtain rfl := hbreach.resolve_left hno
    rw [ofWords_append_of_breach hkeeps hmisfit] at hread
    obtain ⟨progress, hfront, rfl⟩ := exists_eq_ok_of_map hread
    obtain ⟨stage, hstage, halong⟩ := exists_readAlong_of_advance hkeeps hfront
    have hopen := (keptBy_of_advance (Reading.openFrom_empty _) hfront).2 stage hstage
    -- The second id stands at position 10, so the word that breaks the template stands behind it.
    have hbehind : 10 < front.length := by
      by_contra hle
      rw [← halong.position_eq] at hle
      exact hids _ (hopen.otherId_eq (Nat.le_of_not_lt hle))
    obtain ⟨_, _, hbreaks⟩ := Option.bind_eq_some_iff.1 hmisfit
    exact eq_malformed_of_misfit? hbehind hbreaks

/-! ## Words that go on -/

/-- What is read of an instruction that goes on.  If it can be read, so can its first words.  If one of
these ends the reading, the words behind them do not count.  Otherwise every part that is known of
the first words is the same in the whole, and all breaches of the first words are the first ones of
the whole, but for the one at the end that there were too few words. -/
theorem ofWords_append_keeps {words more : List String} {whole : Reading}
    (hread : Reading.ofWords (words ++ more) = .ok whole) :
    ∃ front : Progress, advance .start {} words = .ok front ∧
      Reading.ofWords words = .ok front.finish ∧
      (front.stage = none → whole = front.finish) ∧
      ∀ stage, front.stage = some stage →
        front.finish.KeptBy whole ∧
        front.finish.breaches =
          front.reading.breaches ++ reportIf (stage.isAccepting = false) .malformed ∧
        front.reading.breaches <+: whole.breaches := by
  rcases exists_eq_ok_of_map hread with ⟨last, hlast, rfl⟩
  rw [advance_append] at hlast
  cases hfront : advance .start {} words with
  | error fault =>
      rw [hfront] at hlast
      cases hlast
  | ok front =>
      rw [hfront] at hlast
      refine ⟨front, rfl, by rw [Reading.ofWords, readFrom, hfront]; rfl, ?_, ?_⟩
      · intro hnone
        simp only [Except.bind, hnone] at hlast
        cases hlast
        rfl
      · intro stage hstage
        simp only [Except.bind, hstage] at hlast
        have hopen := (keptBy_of_advance (Reading.openFrom_empty _) hfront).2 stage hstage
        have hkept := (keptBy_of_advance hopen hlast).1
        refine ⟨?_, breaches_finish hstage, ?_⟩
        · exact ((keptBy_finish front).2.trans hkept).trans (keptBy_finish last).1
        · exact (breaches_prefix_of_advance hlast).trans (breaches_prefix_finish last)

/-- The first words of a transfer, without an amount where one should be. -/
def brokenOffTransfer : List String :=
  ["Credit", "1.5", "usd", "to", "account", "a", "for"]

/-- The rest of the transfer. -/
def restOfTransfer : List String :=
  ["debit", "from", "account", "b"]

/-- The transfer keeps what its first words say, and loses only the breach that they are too few. -/
theorem ofWords_brokenOffTransfer_append :
    ∃ part whole, Reading.ofWords brokenOffTransfer = .ok part ∧
      Reading.ofWords (brokenOffTransfer ++ restOfTransfer) = .ok whole ∧
      part.breaches = [.badAmount, .malformed] ∧ whole.breaches = [.badAmount] ∧
      part.KeptBy whole ∧ whole.creditId = some "a" := by
  have hwhole : Reading.ofWords (brokenOffTransfer ++ restOfTransfer) =
      .ok { heading := some (.side .credit), currency := some "USD", debitId := some "b",
            creditId := some "a", breaches := [.badAmount] } := by
    decide +kernel
  have hfront : advance .start {} brokenOffTransfer =
      .ok ⟨some .purpose, { heading := some (.side .credit), currency := some "USD",
                            creditId := some "a", breaches := [.badAmount] }⟩ := by
    decide +kernel
  rcases ofWords_append_keeps hwhole with ⟨front, hadvance, hpart, -, hgoesOn⟩
  cases hfront.symm.trans hadvance
  rcases hgoesOn .purpose rfl with ⟨hkept, -, -⟩
  exact ⟨_, _, hpart, hwhole, rfl, rfl, hkept, rfl⟩

end FundsTransfer
