import ScrollRevm.Session.Frames

/-!
# What a journal shows between transactions

The world is what a journal shows of all accounts: balances, nonces and storage. Ending a
transaction keeps or restores the world, writing the state to the database keeps it, and a
state that is dropped leaves the world of the database.
-/

namespace ScrollRevm

open FixedWidth StateResult

variable {ε : Type}

/-- The balances, nonces and storage of all accounts. -/
structure World where
  funds : Address → Funds
  storage : Address → U256 → U256

def Journal.world (s : Journal ε) : World := ⟨s.funds, s.storageAt⟩

/-- The world that a new journal over the database shows. -/
def Database.world (database : Database ε) : World :=
  ⟨fun address => (database.info address).funds, database.slot⟩

/-- The same balances, nonces and storage. The one precompile whose touch survives a revert
is left out of the storage; no code runs there. -/
structure World.Same (world other : World) : Prop where
  funds_eq : world.funds = other.funds
  storage_eq : ∀ address, address ≠ precompile3 → world.storage address = other.storage address

namespace World.Same

variable {world other third : World}

theorem refl (world : World) : world.Same world := ⟨rfl, fun _ _ => rfl⟩

theorem trans (h : world.Same other) (h' : other.Same third) : world.Same third :=
  ⟨h.funds_eq.trans h'.funds_eq,
    fun address hne => (h.storage_eq address hne).trans (h'.storage_eq address hne)⟩

end World.Same

namespace Journal

variable {s s' t : Journal ε}

/-- Between transactions: the log is empty and an account that is not touched shows what the
database holds. -/
structure Resting (s : Journal ε) : Prop where
  settled : s.Settled
  atRest : ∀ address, address ≠ precompile3 → AtRest address s

/-- A journal that has cached nothing yet. -/
structure Fresh (s : Journal ε) : Prop where
  state_eq : ∀ address, s.inner.state address = none
  journal_eq : s.inner.journal = []

theorem Fresh.world_eq (h : s.Fresh) : s.world = s.database.world := by
  unfold world Database.world
  congr 1
  · funext address
    rw [funds, info, h.state_eq]
  · funext address key
    rw [storageAt, journaled, h.state_eq]
    rfl

theorem Fresh.resting (h : s.Fresh) : s.Resting := by
  have hworld := h.world_eq
  refine ⟨⟨h.journal_eq, fun address _ => ?_⟩, fun address _ => ⟨h.journal_eq, fun _ => ?_⟩⟩
  · exact congrFun (congrArg World.funds hworld) address
  · exact congrFun (congrArg World.storage hworld) address

/-- The end of an accepted transaction. -/
theorem Resting.commitTx (h : s.Resting) (hst : Traced s t)
    (hcommit : Journal.commitTx.run t = .ok () s') :
    s'.Resting ∧ s'.funds = t.funds ∧ s'.database = s.database := by
  obtain ⟨hsettled, hfunds⟩ := h.settled.commitTx hst.recorded hcommit
  refine ⟨⟨hsettled, fun address hne => ?_⟩, hfunds, ?_⟩
  · exact ((h.atRest address hne).commitTx (hst.logged address hne) hcommit).1
  · cases hcommit
    exact hst.database_eq

/-- The end of a rejected transaction: the world is that of before. -/
theorem Resting.discardTx (h : s.Resting) (hst : Traced s t)
    (hdiscard : Journal.discardTx.run t = .ok () s') :
    s'.Resting ∧ s'.world.Same s.world ∧ s'.database = s.database := by
  obtain ⟨hsettled, hfunds⟩ := h.settled.discardTx hst.recorded hdiscard
  have hrest (address : Address) (hne : address ≠ precompile3) :=
    (h.atRest address hne).discardTx hne (hst.logged address hne) hdiscard
  refine ⟨⟨hsettled, fun address hne => (hrest address hne).1⟩,
    ⟨hfunds, fun address hne => (hrest address hne).2⟩, ?_⟩
  cases hdiscard
  exact hst.database_eq

/-- Taking the state out leaves a journal that has cached nothing. -/
theorem finalize_fresh {state : Address → Option Account}
    (hfinalize : Journal.finalize.run s = .ok state t) : t.Fresh ∧ t.database = s.database := by
  cases hfinalize
  exact ⟨⟨fun _ => rfl, rfl⟩, rfl⟩

/-- Writing the state back to the database keeps the world, and the database holds it. -/
theorem Resting.commit (h : s.Resting) {state : Address → Option Account}
    (hfinalize : Journal.finalize.run s = .ok state t)
    (hcommit : (Journal.commit state).run t = .ok () s') :
    s'.Fresh ∧ s'.world.Same s.world := by
  refine ⟨?_, (h.settled.commit hfinalize hcommit).2, fun address hne =>
    ((h.atRest address hne).commit hfinalize hcommit).2⟩
  obtain ⟨hfresh, -⟩ := finalize_fresh hfinalize
  cases hcommit
  exact ⟨hfresh.state_eq, hfresh.journal_eq⟩

end Journal

end ScrollRevm
