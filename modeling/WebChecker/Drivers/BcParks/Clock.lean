import WebChecker.Drivers.BcParks.Window

/-!
# The clock alone

Two checks of one facility that differ only in the provider's clock and in the dates the clock
brings into the window.  The three limits of a date move one way: a slot that is over stays over
(`Over.later`), a date whose booking has opened stays open (`PreOpen.earlier`), and the window
leaves days behind and takes days in at its end.
-/

namespace WebChecker

namespace ParksCheck

variable {zone : ProviderZone} {config : BCParksDayUseConfig} {c₁ c₂ : ParksCheck zone config}
variable {d : Date}

/-- One facility but for its clock, and one inventory for every date that both responses have. -/
structure SameInventory (c₁ c₂ : ParksCheck zone config) : Prop where
  facility : c₂.facility = { c₁.facility with currentTime := c₂.facility.currentTime }
  inventory : ∀ a ∈ c₁.responses.reservations, ∀ b ∈ c₂.responses.reservations,
    a.date = b.date → a.slot = b.slot →
      a.capacity = b.capacity ∧ a.maxReservable = b.maxReservable

/-- What the passing of time does to a snapshot. -/
inductive ClockTransition (c₁ c₂ : ParksCheck zone config) : OpportunityTransition → Prop
  /-- Booking has opened for a date, and it is what its inventory says. -/
  | opened {item old o} (hitem : c₂.Shown item) (hid : o.id = parksId config item.date)
      (hpreOpen : c₁.PreOpen item.date) (hunknown : old.availability = .unknown)
      (hstate : ("booking_state", PyVal.str "pre_open") ∈ old.attributes)
      (hinventory : o.availability = if item.capacity = .full then .unavailable else .available) :
      ClockTransition c₁ c₂ (changedTransition (availabilityTransition o.availability) old o)
  /-- A date is in the past, or its slot is over today. -/
  | passed {d o} (hid : o.id = parksId config d)
      (hpassed : d < c₂.providerNow.date ∨ d = c₂.providerNow.date ∧ c₂.Over d) :
      ClockTransition c₁ c₂ (disappearedTransition o)
  /-- A date has come into the window. -/
  | entered {d o} (hid : o.id = parksId config d)
      (hentered : c₁.providerNow.date.toordinal + c₁.facility.bookingDaysAhead < d.toordinal) :
      ClockTransition c₁ c₂ (appearedTransition o)

/-! ## The limits move one way -/

lemma Over.later (hle : c₁.providerNow.wall ≤ c₂.providerNow.wall) (h : c₁.Over d) : c₂.Over d :=
  h.trans hle

lemma PreOpen.earlier (h : SameInventory c₁ c₂) (hle : c₁.providerNow.wall ≤ c₂.providerNow.wall)
    (hd : c₂.PreOpen d) : c₁.PreOpen d := by
  rw [PreOpen, h.facility] at hd
  rw [PreOpen]
  dsimp only at hd
  omega

lemma bookingDaysAhead_eq (h : SameInventory c₁ c₂) :
    c₂.facility.bookingDaysAhead = c₁.facility.bookingDaysAhead := by rw [h.facility]

lemma bookingDay_eq (h : SameInventory c₁ c₂) (d : Date) :
    c₂.facility.bookingDay d = c₁.facility.bookingDay d := by
  rw [h.facility]
  rfl

/-- A slot that is over today or later is over today. -/
lemma Over.date_eq {c : ParksCheck zone config} (h : c.Over d) (hle : c.providerNow.date ≤ d) :
    d = c.providerNow.date := by
  refine le_antisymm ?_ hle
  refine Datetime.date_le_of_wall (a := (slotWindow zone config.parkId d config.slot).2) ?_
  exact h

/-! ## One date in both snapshots -/

/-- **A date in both snapshots** keeps its availability, unless booking opens in between. -/
lemma availability_of_both (h : SameInventory c₁ c₂)
    (hle : c₁.providerNow.wall ≤ c₂.providerNow.wall) {old o : Opportunity}
    {item₁ item₂ : ReservationSlot} (hshown₁ : c₁.Shown item₁) (hshown₂ : c₂.Shown item₂)
    (hdate : item₁.date = item₂.date) (hshows₁ : c₁.Shows item₁ old)
    (hshows₂ : c₂.Shows item₂ o) :
    old.availability = o.availability ∨
      (c₁.PreOpen item₂.date ∧ old.availability = .unknown ∧
        ("booking_state", PyVal.str "pre_open") ∈ old.attributes ∧
        o.availability = if item₂.capacity = .full then .unavailable else .available) := by
  obtain ⟨hcapacity, -⟩ := h.inventory item₁ hshown₁.mem item₂ hshown₂.mem hdate
    (hshown₁.slot.trans hshown₂.slot.symm)
  have hold := hshows₁.availability_eq
  have hstate := hshows₁.state_mem
  have hnew := hshows₂.availability_eq
  rw [stateOf, hdate, hcapacity] at hold hstate
  rw [stateOf, bookingDay_eq h] at hnew
  cases hday : c₁.facility.bookingDay item₂.date with
  | false =>
      left
      simp [hold, hnew, hday]
  | true =>
      by_cases hclosed : c₂.PreOpen item₂.date
      · left
        simp [hold, hnew, hday, hclosed, PreOpen.earlier h hle hclosed]
      · by_cases hpreOpen : c₁.PreOpen item₂.date
        · right
          refine ⟨hpreOpen, by simp [hold, hday, hpreOpen], ?_, ?_⟩
          · simpa [hday, hpreOpen] using hstate
          · simp only [hnew, hday, hclosed]
            split_ifs <;> simp_all
        · left
          simp [hold, hnew, hday, hclosed, hpreOpen]

/-! ## The transitions -/

/-- **The clock alone never retracts availability.** -/
theorem clock_never_retracts (c₁ c₂ : ParksCheck zone config) (h : SameInventory c₁ c₂)
    (hle : c₁.providerNow.wall ≤ c₂.providerNow.wall) :
    (∀ t ∈ detectTransitions c₁.result c₂.result, ClockTransition c₁ c₂ t) ∧
      ∀ d a b, c₁.result.availabilityOf (parksId config d) = some a →
        c₂.result.availabilityOf (parksId config d) = some b → a ≠ .unknown → b = a := by
  have hdates : c₁.providerNow.date ≤ c₂.providerNow.date := Datetime.date_le_of_wall hle
  refine ⟨fun t ht => ?_, fun d a b ha hb hne => ?_⟩
  · rcases mem_detectTransitions.mp ht with ⟨o, ho, htransition⟩ | ⟨o, ho, htransition⟩
    · obtain ⟨item₂, hshown₂, hshows₂⟩ := c₂.mem_result ho
      rcases currentTransition_eq_some.mp htransition with ⟨hnone, rfl⟩ | ⟨old, hold, hne, rfl⟩
      · -- it was not over at the first check either, so it was outside the window
        rw [hshows₂.id_eq, c₁.byId_eq_none] at hnone
        refine .entered hshows₂.id_eq ?_
        by_contra hearly
        refine hnone ⟨⟨hdates.trans hshown₂.inWindow.1, not_lt.mp hearly⟩, fun hover => ?_⟩
        exact hshown₂.notOver (Over.later hle hover)
      · rw [hshows₂.id_eq] at hold
        obtain ⟨item₁, hshown₁, hdate, hshows₁⟩ := c₁.byId_eq_some hold
        rcases availability_of_both h hle hshown₁ hshown₂ hdate hshows₁ hshows₂ with
          heq | ⟨hpreOpen, hunknown, hstate, hinventory⟩
        · exact absurd heq hne
        · exact .opened hshown₂ hshows₂.id_eq hpreOpen hunknown hstate hinventory
    · obtain ⟨hnone, rfl⟩ := previousTransition_eq_some.mp htransition
      obtain ⟨item₁, hshown₁, hshows₁⟩ := c₁.mem_result ho
      rw [hshows₁.id_eq, c₂.byId_eq_none] at hnone
      refine .passed hshows₁.id_eq ?_
      rcases lt_or_ge item₁.date c₂.providerNow.date with hpast | hfuture
      · exact Or.inl hpast
      · have hwindow : c₂.InWindow item₁.date := by
          refine ⟨hfuture, ?_⟩
          rw [bookingDaysAhead_eq h]
          have hlast := hshown₁.inWindow.2
          rw [Date.le_iff] at hdates
          omega
        have hover : c₂.Over item₁.date := not_not.mp fun hnot => hnone ⟨hwindow, hnot⟩
        exact Or.inr ⟨hover.date_eq hfuture, hover⟩
  · obtain ⟨old, hold, rfl⟩ := Option.map_eq_some_iff.mp ha
    obtain ⟨o, ho, rfl⟩ := Option.map_eq_some_iff.mp hb
    obtain ⟨item₁, hshown₁, hdate₁, hshows₁⟩ := c₁.byId_eq_some hold
    obtain ⟨item₂, hshown₂, hdate₂, hshows₂⟩ := c₂.byId_eq_some ho
    rcases availability_of_both h hle hshown₁ hshown₂ (hdate₁.trans hdate₂.symm) hshows₁ hshows₂
      with heq | ⟨_, hunknown, _⟩
    · exact heq.symm
    · exact absurd hunknown hne

/-- Booking for the next day opens between two checks of one morning. -/
theorem clock_never_retracts_opening :
    ∃ c₁ c₂ : ParksCheck summerZone southBeach,
      c₁.responses = southBeachAt 15 6 (by decide) ∧ c₂.responses = southBeachAt 15 8 (by decide) ∧
      (∀ t ∈ detectTransitions c₁.result c₂.result, ClockTransition c₁ c₂ t) ∧
      ∀ d a b, c₁.result.availabilityOf (parksId southBeach d) = some a →
        c₂.result.availabilityOf (parksId southBeach d) = some b → a ≠ .unknown → b = a := by
  obtain ⟨c₁, hresponses₁, hfacility₁, hnow₁⟩ :=
    exists_southBeachCheck 15 6 (by decide) (by decide +kernel)
  obtain ⟨c₂, hresponses₂, hfacility₂, hnow₂⟩ :=
    exists_southBeachCheck 15 8 (by decide) (by decide +kernel)
  refine ⟨c₁, c₂, hresponses₁, hresponses₂, clock_never_retracts c₁ c₂ ⟨?_, ?_⟩ ?_⟩
  · rw [hfacility₁, hfacility₂]
    rfl
  · rw [hresponses₁, hresponses₂]
    decide +kernel
  · rw [hnow₁, hnow₂]
    decide +kernel

end ParksCheck

end WebChecker
