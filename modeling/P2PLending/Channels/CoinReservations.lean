import P2PLending.Channels.Treasury
import P2PLending.Channels.FaultIsolation
import P2PLending.Foundation.Reservations

/-! The coins that a node has put into its agreements, and those that its wallet holds as
reserved. An agreement is a stored contract, or an escrow transaction that was broadcast. -/

namespace P2PLending.Manager
open Dlc Checked

variable {D : Descriptors}

/-! What the node has put in. -/

/-- The own funding inputs of an offer. -/
def OfferedContract.ownInputs (c : OfferedContract D) : List FundingInput :=
  if c.isOfferParty then c.fundingInputs else []

def AcceptedContract.ownInputs (c : AcceptedContract D) : List FundingInput :=
  if c.offeredContract.isOfferParty then c.offeredContract.fundingInputs else c.fundingInputs

/-- The own funding inputs of a contract that has neither failed nor been rejected and is not
settled. -/
def Contract.ownInputs : Contract D → List FundingInput
  | .offered c => c.ownInputs
  | .offeredLoan c | .offeredLoanEscrowConfirmed c => c.offeredContract.ownInputs
  | .accepted c => c.ownInputs
  | .signed c | .confirmed c => c.acceptedContract.ownInputs
  | .preClosed c => c.signedContract.acceptedContract.ownInputs
  | .closed _ | .refunded _ | .failedAccept _ | .failedSign _ | .rejected _ => []

theorem OfferedContract.ownInputs_received {c : OfferedContract D}
    (received : c.isOfferParty = false) : c.ownInputs = [] := by
  rw [OfferedContract.ownInputs, received]
  rfl

def coinsOf (C : Crypto) (decode : Bytes → Option Transaction) (inputs : List FundingInput) :
    Set OutPoint := {o | ∃ input ∈ inputs, input.spends C decode = some o}

theorem coinsOf_nil {C : Crypto} {decode : Bytes → Option Transaction} :
    coinsOf C decode [] = ∅ := by
  ext o
  simp [coinsOf]

/-- What the inputs of a request spend. -/
theorem coinsOf_chosen {C : Crypto} {decode : Bytes → Option Transaction}
    {inputs : List FundingInput} {chosen : List LocalOutput}
    (spends : inputs.map (·.spends C decode) = chosen.map fun l => some l.outpoint) :
    coinsOf C decode inputs = {o | o ∈ chosen.map LocalOutput.outpoint} := by
  ext o
  have listed : some o ∈ inputs.map (·.spends C decode) ↔
      some o ∈ chosen.map fun l => some l.outpoint := by rw [spends]
  simpa [coinsOf] using listed

/-- What a transaction spends. -/
def spentBy (tx : Transaction) : Set OutPoint := {o | ∃ input ∈ tx.input, input.previousOutput = o}

namespace Channels

/-- The id of a stored contract, or the place of a broadcast escrow. -/
abbrev Agreement := ContractId ⊕ ℕ

/-- A channel that has been offered, and maybe refused. -/
def Channel.Unopened {X : ChannelCrypto} : Channel X → Prop
  | .offered _ | .cancelled _ | .failedAccept _ => True
  | .accepted _ | .failedSign _ | .established _ => False

namespace Treasury
variable {X : ChannelCrypto} (decode : Bytes → Option Transaction) (t : Treasury X D)

def pledged : Agreement → Set OutPoint
  | .inl id => (t.store.contracts id).elim ∅ fun c => coinsOf X.toCrypto decode c.ownInputs
  | .inr k => (t.escrows[k]?).elim ∅ fun e => spentBy e.tx

def book : Book Agreement OutPoint where
  reserved := t.wallet.reserved
  pledged := t.pledged decode

/-- The contracts of the channels that fail in a step. -/
def fails (t t' : Treasury X D) : Set ContractId :=
  {id | ∃ channelId, (∃ ch f, t.channels channelId = some (.offered ch) ∧
      ch.offeredContractId = id ∧ t'.channels channelId = some (.failedAccept f)) ∨
    ∃ ch f, t.channels channelId = some (.accepted ch) ∧ ch.acceptedContractId = id ∧
      t'.channels channelId = some (.failedSign f)}

section Book
variable {decode} {t} {t' : Treasury X D} {id : ContractId} {c : Contract D}

theorem pledged_stored (stored : t.store.contracts id = some c) :
    t.pledged decode (.inl id) = coinsOf X.toCrypto decode c.ownInputs := by
  rw [pledged, stored]
  rfl

theorem pledged_none (free : t.store.contracts id = none) : t.pledged decode (.inl id) = ∅ := by
  rw [pledged, free]
  rfl

theorem pledged_past : t.pledged decode (.inr t.escrows.length) = ∅ := by
  rw [pledged, List.getElem?_eq_none (le_refl _)]
  rfl

/-- What is pledged is a matter of the contracts and the escrows. -/
theorem pledged_congr (contracts : t'.store.contracts = t.store.contracts)
    (escrows : t'.escrows = t.escrows) : t'.pledged decode = t.pledged decode := by
  funext k
  cases k with
  | inl id => rw [pledged, pledged, contracts]
  | inr k => rw [pledged, pledged, escrows]

theorem pledged_insert (contracts : t'.store.contracts = t.store.contracts.insert id c)
    (escrows : t'.escrows = t.escrows) :
    t'.pledged decode = Function.update (t.pledged decode) (.inl id)
      (coinsOf X.toCrypto decode c.ownInputs) := by
  funext k
  cases k with
  | inl id' =>
      by_cases same : id' = id
      · subst same
        rw [Function.update_self, pledged, contracts, Store.insert, Function.update_self]
        rfl
      · rw [Function.update_of_ne fun equal => same (Sum.inl.inj equal), pledged, contracts,
          Store.insert, Function.update_of_ne same, pledged]
  | inr k =>
      rw [Function.update_of_ne Sum.inr_ne_inl, pledged, escrows, pledged]

theorem pledged_remove (contracts : t'.store.contracts = t.store.contracts.remove id)
    (escrows : t'.escrows = t.escrows) :
    t'.pledged decode = Function.update (t.pledged decode) (.inl id) ∅ := by
  funext k
  cases k with
  | inl id' =>
      by_cases same : id' = id
      · subst same
        rw [Function.update_self, pledged, contracts, Store.remove, Function.update_self]
        rfl
      · rw [Function.update_of_ne fun equal => same (Sum.inl.inj equal), pledged, contracts,
          Store.remove, Function.update_of_ne same, pledged]
  | inr k =>
      rw [Function.update_of_ne Sum.inr_ne_inl, pledged, escrows, pledged]

/-- A contract over the same coins takes the place of what is stored. -/
theorem pledged_replace (contracts : t'.store.contracts = t.store.contracts.insert id c)
    (escrows : t'.escrows = t.escrows)
    (same : t.pledged decode (.inl id) = coinsOf X.toCrypto decode c.ownInputs) :
    t'.pledged decode = t.pledged decode := by
  rw [pledged_insert contracts escrows, ← same, Function.update_eq_self]

/-- One more escrow. -/
theorem pledged_escrow {e : SentEscrow} (contracts : t'.store.contracts = t.store.contracts)
    (escrows : t'.escrows = t.escrows ++ [e]) :
    t'.pledged decode = Function.update (t.pledged decode) (.inr t.escrows.length)
      (spentBy e.tx) := by
  funext k
  cases k with
  | inl id =>
      rw [Function.update_of_ne Sum.inl_ne_inr, pledged, contracts, pledged]
  | inr k =>
      by_cases same : k = t.escrows.length
      · subst same
        rw [Function.update_self, pledged, escrows, List.getElem?_concat_length]
        rfl
      · rw [Function.update_of_ne fun equal => same (Sum.inr.inj equal), pledged, escrows, pledged]
        rcases Nat.lt_or_gt_of_ne same with below | past
        · rw [List.getElem?_append_left below]
        · rw [List.getElem?_eq_none (by rw [List.length_append, List.length_singleton]; omega),
            List.getElem?_eq_none (by omega)]

/-- The contract of a temporary id is moved to its id. -/
theorem pledged_move {temporaryId : ContractId}
    (contracts : t'.store.contracts = (t.store.contracts.remove temporaryId).insert id c)
    (escrows : t'.escrows = t.escrows) :
    t'.pledged decode = Function.update (Function.update (t.pledged decode) (.inl temporaryId) ∅)
      (.inl id) (coinsOf X.toCrypto decode c.ownInputs) := by
  let removed := t.setContracts (t.store.contracts.remove temporaryId)
  have first : removed.pledged decode = _ := pledged_remove rfl rfl
  have next : t'.pledged decode = _ := pledged_insert (t := removed) contracts escrows
  rw [next, first]

theorem fails_none (kept : ∀ id c, t'.channels id = some c → t.channels id = some c ∨
    (∀ f, c ≠ .failedAccept f) ∧ ∀ f, c ≠ .failedSign f) : t.fails t' = ∅ := by
  rw [Set.eq_empty_iff_forall_notMem]
  rintro id ⟨channelId, ⟨ch, f, before, -, after⟩ | ⟨ch, f, before, -, after⟩⟩
  · rcases kept channelId _ after with same | ⟨accepts, -⟩
    · cases before.symm.trans same
    · exact accepts f rfl
  · rcases kept channelId _ after with same | ⟨-, signs⟩
    · cases before.symm.trans same
    · exact signs f rfl

end Book

/-! A call that asks for coins. -/

section Funded
variable {α β : Type} (wallet : AcceptEnvironment) (answers : WalletAnswers)
  (gate : Treasury X D → Result (FundingRequest × β)) (request : FundingRequest) (b : β)
  (chosen : List LocalOutput) (params : PartyParams) (inputs : List FundingInput)

/-- The call comes to the wallet, which chooses coins for it. -/
structure Asks : Prop where
  passes : gate t = .ok (request, b)
  asked : t.wallet.Asked answers wallet request.ownCollateral request.feeRate request.signer chosen

variable (X) in
/-- The storage takes the marks of the coins, and the node has their transactions. -/
structure Locks : Prop where
  writes : ∀ l ∈ chosen, answers.upsertUtxo l.outpoint = .ok ()
  known : ∀ l ∈ chosen, Wallet.Known wallet X.toCrypto decode l
  fits : (chosen.map fun l => l.txout.value).sum < u64Limit

/-- What the wallet's coins come to for the request. -/
def Returns : Prop :=
  (Wallet.getPartyParams answers wallet X.toCrypto request.ownCollateral request.feeRate
    request.signer t.wallet).1 = .ok (params, inputs)

def locked : Treasury X D :=
  { t with wallet := t.wallet.mark true (chosen.map LocalOutput.outpoint) }

def chosenCoins : Set OutPoint := {o | o ∈ chosen.map LocalOutput.outpoint}

/-- The wallet has locked coins for the request. -/
structure Funds : Prop extends Asks t wallet answers gate request b chosen where
  returned : t.Returns wallet answers request params inputs
  spends : params.inputs.map TxInputInfo.outpoint = chosen.map LocalOutput.outpoint
  coins : coinsOf X.toCrypto decode inputs = chosenCoins chosen

variable {wallet answers gate request b chosen params inputs} {t}

/-- Such a call stops before anything is changed, or goes on with the coins. -/
theorem funded_cases
    (finish : FundingRequest → β → PartyParams → List FundingInput → TreasuryHandler X D α)
    (locks : ∀ request b chosen, Asks t wallet answers gate request b chosen →
      Locks X decode wallet answers chosen) :
    (∃ e, funded wallet answers gate finish t = (.error e, t)) ∨
      ∃ (request : FundingRequest) (b : β) (chosen : List LocalOutput) (params : PartyParams)
        (inputs : List FundingInput),
        Funds decode t wallet answers gate request b chosen params inputs ∧
        funded wallet answers gate finish t = finish request b params inputs (t.locked chosen) := by
  unfold funded
  rw [Handler.read_bind]
  cases passes : gate t with
  | error e => exact .inl ⟨e, rfl⟩
  | ok passed =>
      obtain ⟨request, b⟩ := passed
      dsimp only
      rw [Handler.bind_apply]
      by_cases asks : ∃ chosen, t.wallet.Asked answers wallet request.ownCollateral
          request.feeRate request.signer chosen
      · obtain ⟨chosen, asked⟩ := asks
        have lock := locks request b chosen ⟨passes, asked⟩
        obtain ⟨params, inputs, returned, spends, coins⟩ :=
          Wallet.getPartyParams_locks asked lock.writes lock.known lock.fits
        refine .inr ⟨request, b, chosen, params, inputs, ⟨⟨passes, asked⟩, ?_, spends,
          coinsOf_chosen coins⟩, ?_⟩
        · rw [Returns, returned]
        · rw [onWallet, returned]
          rfl
      · obtain ⟨e, refused⟩ := Wallet.getPartyParams_refused (C := X.toCrypto) asks
        rw [onWallet, refused]
        exact .inl ⟨e, rfl⟩

/-- A call that is never given coins changes nothing. -/
theorem funded_unasked
    (finish : FundingRequest → β → PartyParams → List FundingInput → TreasuryHandler X D α)
    (unasked : ∀ request b chosen, ¬ Asks t wallet answers gate request b chosen) :
    ∃ e, funded wallet answers gate finish t = (.error e, t) := by
  rcases funded_cases (fun _ => none) finish
      (fun request b chosen asks => absurd asks (unasked request b chosen)) with
    stopped | ⟨request, b, chosen, _, _, funds, -⟩
  · exact stopped
  · exact absurd funds.toAsks (unasked request b chosen)

/-- The coins were held and not reserved, and they are now. -/
theorem Asks.reserved_locked (asks : Asks t wallet answers gate request b chosen) :
    (t.locked chosen).wallet.reserved = t.wallet.reserved ∪ chosenCoins chosen := by
  obtain ⟨required, -, selects⟩ := asks.asked.selects
  ext o
  rw [locked, Wallet.mem_reserved_mark_true, Set.mem_union, chosenCoins, Set.mem_ofPred_eq]
  refine or_congr_right (and_iff_left_of_imp fun listed => ?_)
  obtain ⟨l, member, rfl⟩ := List.mem_map.mp listed
  obtain ⟨⟨u, held, rfl⟩, -⟩ := selects.chosen_free member
  exact List.mem_map_of_mem held

theorem Asks.unreserved (asks : Asks t wallet answers gate request b chosen) :
    Disjoint (chosenCoins chosen) t.wallet.reserved := by
  obtain ⟨required, -, selects⟩ := asks.asked.selects
  rw [Set.disjoint_left]
  intro o listed
  obtain ⟨l, member, rfl⟩ := List.mem_map.mp listed
  exact (selects.chosen_free member).2

end Funded

end Treasury

/-- What a node keeps, and the contracts of the channels that have failed. -/
structure Ledger (X : ChannelCrypto) (D : Descriptors) where
  treasury : Treasury X D
  failed : Set ContractId

namespace Ledger
variable {X : ChannelCrypto} (decode : Bytes → Option Transaction) (l : Ledger X D)

def after (t' : Treasury X D) : Ledger X D := ⟨t', l.failed ∪ l.treasury.fails t'⟩

/-- The reserved coins are those of the contracts and escrows, each of one of them; no channel
is established, and the contract of a failed channel has no coins. -/
structure Kept : Prop where
  keyed : Keyed X.toCrypto l.treasury.store.contracts
  sound : (l.treasury.book decode).Sound
  unopened : ∀ id c, l.treasury.channels id = some c → c.Unopened
  lost : ∀ id ∈ l.failed, l.treasury.pledged decode (.inl id) = ∅

/-- A call leaves the node so, and an error leaves the reserved coins as they were. -/
structure Outcome {α : Type} (r : Except (Fault Error) α × Treasury X D) : Prop where
  kept : (l.after r.2).Kept decode
  restored : ∀ e, r.1 = .error (.err e) → r.2.wallet.reserved = l.treasury.wallet.reserved

variable {decode} {l} {t' : Treasury X D} {α : Type} {r : Except (Fault Error) α × Treasury X D}

theorem fails_self {t : Treasury X D} : t.fails t = ∅ :=
  Treasury.fails_none fun _ _ stored => .inl stored

theorem fails_channels {t : Treasury X D} (same : t'.channels = t.channels) : t.fails t' = ∅ :=
  Treasury.fails_none fun _ _ stored => .inl (same ▸ stored)

theorem Kept.recoin (kept : l.Kept decode) (wallet : t'.wallet = l.treasury.wallet)
    (pledged : t'.pledged decode = l.treasury.pledged decode)
    (keyed : Keyed X.toCrypto t'.store.contracts)
    (unopened : ∀ id c, t'.channels id = some c → c.Unopened)
    (fails : ∀ id ∈ l.treasury.fails t', l.treasury.pledged decode (.inl id) = ∅) :
    (l.after t').Kept decode where
  keyed := keyed
  sound := by
    have same : t'.book decode = l.treasury.book decode := by
      rw [Treasury.book, Treasury.book, wallet, pledged]
    rw [Ledger.after, same]
    exact kept.sound
  unopened := unopened
  lost := by
    rintro id (before | now)
    · exact (congrFun pledged _).trans (kept.lost id before)
    · exact (congrFun pledged _).trans (fails id now)

/-- Only the contracts change, and not their coins. -/
theorem Kept.recontract (kept : l.Kept decode) (wallet : t'.wallet = l.treasury.wallet)
    (channels : t'.channels = l.treasury.channels)
    (pledged : t'.pledged decode = l.treasury.pledged decode)
    (keyed : Keyed X.toCrypto t'.store.contracts) : (l.after t').Kept decode := by
  refine kept.recoin wallet pledged keyed ?_ ?_
  · rw [channels]
    exact kept.unopened
  · rw [fails_channels channels]
    exact fun _ none => none.elim

theorem Outcome.same (kept : l.Kept decode) (same : r.2 = l.treasury) : Outcome decode l r where
  kept := by
    rw [same]
    exact kept.recontract rfl rfl rfl kept.keyed
  restored _ _ := by rw [same]

theorem Outcome.error {e : Fault Error} (kept : l.Kept decode)
    (stops : r = (.error e, l.treasury)) : Outcome decode l r :=
  .same kept (congrArg Prod.snd stops)

theorem Outcome.ok {a : α} (returns : r = (.ok a, t')) (kept : (l.after t').Kept decode) :
    Outcome decode l r where
  kept := by rwa [returns]
  restored e failed := by
    rw [returns] at failed
    cases failed

/-- New coins are pledged to an agreement that had none. -/
theorem Kept.pledge {β : Type} {wallet : AcceptEnvironment} {answers : WalletAnswers}
    {gate : Treasury X D → Result (FundingRequest × β)} {request : FundingRequest} {b : β}
    {chosen : List LocalOutput} {k : Agreement} (kept : l.Kept decode)
    (asks : l.treasury.Asks wallet answers gate request b chosen)
    (free : l.treasury.pledged decode k = ∅) (live : ∀ id ∈ l.failed, k ≠ .inl id)
    (locked : t'.wallet = (l.treasury.locked chosen).wallet)
    (pledged : t'.pledged decode =
      Function.update (l.treasury.pledged decode) k (Treasury.chosenCoins chosen))
    (keyed : Keyed X.toCrypto t'.store.contracts)
    (unopened : ∀ id c, t'.channels id = some c → c.Unopened)
    (fails : l.treasury.fails t' = ∅) : (l.after t').Kept decode where
  keyed := keyed
  sound := by
    have book : t'.book decode =
        (l.treasury.book decode).pledge k (Treasury.chosenCoins chosen) := by
      rw [Treasury.book, locked, asks.reserved_locked, pledged]
      rfl
    rw [Ledger.after, book]
    exact kept.sound.pledge free asks.unreserved
  unopened := unopened
  lost := by
    rintro id (before | now)
    · refine (congrFun pledged _).trans ?_
      rw [Function.update_of_ne (live id before).symm]
      exact kept.lost id before
    · rw [fails] at now
      exact now.elim

end Ledger

end Channels

end P2PLending.Manager
