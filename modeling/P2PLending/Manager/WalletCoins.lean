import P2PLending.Manager.Acceptance

/-! The coins of the wallet. The wallet marks the coins that it chooses for an amount as
reserved, one write after the other, before anything else of the operation is computed. -/

namespace P2PLending.Manager
open Dlc Checked

/-- A coin as the wallet stores it. -/
structure WalletUtxo extends Utxo where
  txOut : TxOut
  reserved : Bool
  deriving DecidableEq, Repr

/-- What the coin selection sees of a coin. -/
structure LocalOutput where
  outpoint : OutPoint
  txout : TxOut
  deriving DecidableEq, Repr

def WalletUtxo.localOutput (u : WalletUtxo) : LocalOutput := ⟨u.outpoint, u.txOut⟩

/-- The coin that a funding input spends. -/
def FundingInput.spends (C : Crypto) (decode : Bytes → Option Transaction)
    (fundingInput : FundingInput) : Option OutPoint :=
  (decode fundingInput.prevTx).map fun tx => ⟨tx.computeTxid C, fundingInput.prevTxVout⟩

/-- The UTXO tree, with one record for each outpoint. -/
structure Wallet where
  coins : List WalletUtxo
  keyed : (coins.map fun u => u.outpoint).Nodup

/-- Answers of the wallet's storage and of the coin selection, which chooses among the coins
that it is given. -/
structure WalletAnswers where
  getUtxos : Except Error Unit
  coinSelect : List LocalOutput → (feeRate target : ℕ) → Except Error (List LocalOutput)
  selects : ∀ {utxos feeRate target chosen}, coinSelect utxos feeRate target = .ok chosen →
    List.Subperm chosen utxos
  upsertUtxo : OutPoint → Except Error Unit
  unreserveUtxo : OutPoint → Except Error Unit

namespace Wallet
variable (w : Wallet)

/-- The records, rewritten one by one under their outpoints. -/
def rewrite (f : WalletUtxo → WalletUtxo) (keeps : ∀ u, (f u).outpoint = u.outpoint) : Wallet where
  coins := w.coins.map f
  keyed := by
    rw [List.map_map]
    have same : (fun u : WalletUtxo => u.outpoint) ∘ f = fun u => u.outpoint := funext keeps
    rw [same]
    exact w.keyed

/-- The coins under the outpoints are marked. -/
def mark (reserved : Bool) (outpoints : List OutPoint) : Wallet :=
  w.rewrite (fun u => if u.outpoint ∈ outpoints then { u with reserved } else u) fun u => by
    split <;> rfl

def reserved : Set OutPoint := {o | ∃ u ∈ w.coins, u.reserved = true ∧ u.outpoint = o}

/-- What a selection can choose from. -/
def available : List LocalOutput :=
  (w.coins.filter fun u => !u.reserved).map WalletUtxo.localOutput

variable (answers : WalletAnswers)

/-- One coin of the selection, which is marked when the coins are to be locked. -/
def takeUtxo (orgUtxos : List WalletUtxo) (lockUtxos : Bool) (l : LocalOutput) :
    Handler Wallet (Fault Error) WalletUtxo := do
  let org ← Handler.lift (unwrapSome
    (orgUtxos.find? fun x => x.txOut = l.txout ∧ x.outpoint = l.outpoint))
  if lockUtxos then do
    Handler.lift (answered (answers.upsertUtxo org.outpoint))
    Handler.modify fun w => w.mark true [org.outpoint]
    pure org
  else pure org

def takeUtxos (orgUtxos : List WalletUtxo) (lockUtxos : Bool) :
    List LocalOutput → Handler Wallet (Fault Error) (List WalletUtxo)
  | [] => pure []
  | l :: selected => do
      let org ← takeUtxo answers orgUtxos lockUtxos l
      let res ← takeUtxos orgUtxos lockUtxos selected
      pure (org :: res)

def getUtxosForAmount (amount feeRate : ℕ) (lockUtxos : Bool) :
    Handler Wallet (Fault Error) (List WalletUtxo) := do
  let orgUtxos ← Handler.read fun w => do
    answered answers.getUtxos
    .ok w.coins
  let selected ← Handler.read fun w => answered (answers.coinSelect w.available feeRate amount)
  takeUtxos answers orgUtxos lockUtxos selected

/-- A coin that the wallet does not hold stops the loop. The text is without the formatted
outpoint. -/
def unreserveUtxo (o : OutPoint) : Handler Wallet (Fault Error) Unit := do
  Handler.read fun w => ensure (o ∈ w.coins.map fun u => u.outpoint)
    (.err (.invalidState "No utxo"))
  Handler.lift (answered (answers.unreserveUtxo o))
  Handler.modify fun w => w.mark false [o]

def unreserveUtxos (outputs : List OutPoint) : Handler Wallet (Fault Error) Unit :=
  Handler.forEach (unreserveUtxo answers) outputs

/-- `get_party_params`, on the wallet. -/
def getPartyParams (env : AcceptEnvironment) (C : Crypto) (ownCollateral feeRate : ℕ)
    (signer : ContractSigner) :
    Handler Wallet (Fault Error) (PartyParams × List FundingInput) := do
  let fundPubkey ← Handler.lift signer.publicKey
  let payoutScriptPubkey ← Handler.lift (answered env.getNewAddress)
  let changeScriptPubkey ← Handler.lift (answered env.getNewChangeAddress)
  let required ← Handler.lift (requiredAmount ownCollateral feeRate)
  let utxos ← getUtxosForAmount answers required feeRate true
  let (inputs, inputAmount) ← Handler.lift
    (selectInputs env C 2 0 (utxos.map WalletUtxo.toUtxo))
  pure
    ({ fundPubkey, changeScriptPubkey
       changeSerialId := env.getNewSerialId 1
       payoutScriptPubkey
       payoutSerialId := env.getNewSerialId 0
       inputs := inputs.map Prod.snd
       inputAmount
       collateral := ownCollateral }, inputs.map Prod.fst)

/-! What is reserved after the marks. -/

section Marks
variable {w} {reserved : Bool} {outpoints : List OutPoint} {o : OutPoint}

@[ext] theorem ext {v v' : Wallet} (same : v.coins = v'.coins) : v = v' := by
  cases v
  cases v'
  cases same
  rfl

@[simp] theorem outpoints_mark :
    (w.mark reserved outpoints).coins.map (fun u => u.outpoint) = w.coins.map fun u => u.outpoint := by
  rw [mark, rewrite, List.map_map]
  refine List.map_congr_left fun u _ => ?_
  rw [Function.comp_apply]
  split
  · rfl
  · rfl

theorem mark_nil : w.mark reserved [] = w := by
  ext1
  rw [mark, rewrite]
  simp

theorem mark_mark (others : List OutPoint) :
    (w.mark reserved outpoints).mark reserved others = w.mark reserved (outpoints ++ others) := by
  ext1
  simp only [mark, rewrite, List.map_map]
  refine List.map_congr_left fun u _ => ?_
  by_cases first : u.outpoint ∈ outpoints
  · simp [first]
  · by_cases second : u.outpoint ∈ others
    · simp [first, second]
    · simp [first, second]

/-- Two records under one outpoint are one. -/
theorem record_unique {u u' : WalletUtxo} (one : u ∈ w.coins) (two : u' ∈ w.coins)
    (same : u.outpoint = u'.outpoint) : u = u' :=
  List.inj_on_of_nodup_map w.keyed one two same

theorem mem_reserved_mark_true : o ∈ (w.mark true outpoints).reserved ↔
    o ∈ w.reserved ∨ o ∈ outpoints ∧ o ∈ w.coins.map fun u => u.outpoint := by
  simp only [Wallet.reserved, mark, rewrite, Set.mem_ofPred_eq, List.mem_map]
  constructor
  · rintro ⟨_, ⟨u, held, rfl⟩, isReserved, rfl⟩
    by_cases listed : u.outpoint ∈ outpoints
    · rw [if_pos listed]
      exact .inr ⟨listed, u, held, rfl⟩
    · rw [if_neg listed] at isReserved ⊢
      exact .inl ⟨u, held, isReserved, rfl⟩
  · rintro (⟨u, held, isReserved, rfl⟩ | ⟨listed, u, held, rfl⟩)
    · refine ⟨_, ⟨u, held, rfl⟩, ?_⟩
      split
      · exact ⟨rfl, rfl⟩
      · exact ⟨isReserved, rfl⟩
    · refine ⟨_, ⟨u, held, rfl⟩, ?_⟩
      rw [if_pos listed]
      exact ⟨rfl, rfl⟩

theorem mem_reserved_mark_false :
    o ∈ (w.mark false outpoints).reserved ↔ o ∈ w.reserved ∧ o ∉ outpoints := by
  simp only [Wallet.reserved, mark, rewrite, Set.mem_ofPred_eq, List.mem_map]
  constructor
  · rintro ⟨_, ⟨u, held, rfl⟩, isReserved, rfl⟩
    by_cases listed : u.outpoint ∈ outpoints
    · rw [if_pos listed] at isReserved
      cases isReserved
    · rw [if_neg listed] at isReserved ⊢
      exact ⟨⟨u, held, isReserved, rfl⟩, listed⟩
  · rintro ⟨⟨u, held, isReserved, rfl⟩, unlisted⟩
    refine ⟨_, ⟨u, held, rfl⟩, ?_⟩
    rw [if_neg unlisted]
    exact ⟨isReserved, rfl⟩

theorem reserved_held (held : o ∈ w.reserved) : o ∈ w.coins.map fun u => u.outpoint := by
  obtain ⟨u, listed, -, rfl⟩ := held
  exact List.mem_map_of_mem listed

end Marks

/-! A selection. -/

/-- The wallet's selection for the amount. -/
structure Selects (amount feeRate : ℕ) (chosen : List LocalOutput) : Prop where
  read : answers.getUtxos = .ok ()
  selected : answers.coinSelect w.available feeRate amount = .ok chosen

section Selection
variable {w} {answers : WalletAnswers} {amount feeRate : ℕ} {chosen : List LocalOutput}

theorem Selects.unique {chosen' : List LocalOutput} (one : w.Selects answers amount feeRate chosen)
    (two : w.Selects answers amount feeRate chosen') : chosen = chosen' :=
  Except.ok.inj (one.selected.symm.trans two.selected)

/-- What is chosen is held and was not reserved. -/
theorem Selects.chosen_free (selects : w.Selects answers amount feeRate chosen) {l : LocalOutput}
    (listed : l ∈ chosen) :
    (∃ u ∈ w.coins, u.localOutput = l) ∧ l.outpoint ∉ w.reserved := by
  have given := (answers.selects selects.selected).subset listed
  obtain ⟨u, free, rfl⟩ := List.mem_map.mp given
  obtain ⟨held, unreserved⟩ := List.mem_filter.mp free
  refine ⟨⟨u, held, rfl⟩, ?_⟩
  rintro ⟨u', held', isReserved, same⟩
  obtain rfl := record_unique held' held same
  rw [isReserved] at unreserved
  cases unreserved

theorem takeUtxo_locks {v : Wallet} {l : LocalOutput} (held : ∃ u ∈ w.coins, u.localOutput = l)
    (writes : answers.upsertUtxo l.outpoint = .ok ()) :
    ∃ org : WalletUtxo, org.outpoint = l.outpoint ∧
      takeUtxo answers w.coins true l v = (.ok org, v.mark true [l.outpoint]) := by
  obtain ⟨u, listed, rfl⟩ := held
  have found : (w.coins.find? fun x => x.txOut = u.localOutput.txout ∧
      x.outpoint = u.localOutput.outpoint).isSome = true := by
    rw [List.find?_isSome]
    exact ⟨u, listed, decide_eq_true ⟨rfl, rfl⟩⟩
  obtain ⟨org, found⟩ := Option.isSome_iff_exists.mp found
  have matched := List.find?_some found
  simp only [decide_eq_true_eq] at matched
  have named : org.outpoint = u.localOutput.outpoint := matched.2
  refine ⟨org, named, ?_⟩
  rw [takeUtxo, found, Handler.lift_bind]
  simp only [unwrapSome, if_true]
  rw [Handler.lift_bind, named, writes]
  rfl

theorem takeUtxos_locks {v : Wallet} (held : ∀ l ∈ chosen, ∃ u ∈ w.coins, u.localOutput = l)
    (writes : ∀ l ∈ chosen, answers.upsertUtxo l.outpoint = .ok ()) :
    ∃ utxos : List WalletUtxo, utxos.map (fun u => u.outpoint) = chosen.map LocalOutput.outpoint ∧
      takeUtxos answers w.coins true chosen v =
        (.ok utxos, v.mark true (chosen.map LocalOutput.outpoint)) := by
  induction chosen generalizing v with
  | nil => exact ⟨[], rfl, by rw [List.map_nil, mark_nil]; rfl⟩
  | cons l rest ih =>
      rw [List.forall_mem_cons] at held writes
      obtain ⟨org, named, first⟩ := takeUtxo_locks (v := v) held.1 writes.1
      obtain ⟨utxos, outpoints, later⟩ := ih (v := v.mark true [l.outpoint]) held.2 writes.2
      refine ⟨org :: utxos, by rw [List.map_cons, List.map_cons, named, outpoints], ?_⟩
      rw [takeUtxos, Handler.bind_apply, first]
      dsimp only
      rw [Handler.bind_apply, later, mark_mark]
      rfl

/-- A selection locks its coins when the storage takes the writes. -/
theorem Selects.locks (selects : w.Selects answers amount feeRate chosen)
    (writes : ∀ l ∈ chosen, answers.upsertUtxo l.outpoint = .ok ()) :
    ∃ utxos : List WalletUtxo, utxos.map (fun u => u.outpoint) = chosen.map LocalOutput.outpoint ∧
      getUtxosForAmount answers amount feeRate true w =
        (.ok utxos, w.mark true (chosen.map LocalOutput.outpoint)) := by
  obtain ⟨utxos, outpoints, taken⟩ := takeUtxos_locks (v := w)
    (fun l listed => (selects.chosen_free listed).1) writes
  refine ⟨utxos, outpoints, ?_⟩
  rw [getUtxosForAmount, Handler.read_bind, selects.read]
  simp only [answered, ok_bind]
  rw [Handler.read_bind, selects.selected]
  exact taken

/-- Without a selection nothing changes. -/
theorem getUtxosForAmount_refused (none : ¬ ∃ chosen, w.Selects answers amount feeRate chosen) :
    ∃ e, getUtxosForAmount answers amount feeRate true w = (.error e, w) := by
  rw [getUtxosForAmount, Handler.read_bind]
  cases reads : answers.getUtxos with
  | error e => exact ⟨_, rfl⟩
  | ok u =>
      simp only [answered, ok_bind]
      rw [Handler.read_bind]
      cases selected : answers.coinSelect w.available feeRate amount with
      | error e => exact ⟨_, rfl⟩
      | ok chosen => exact absurd ⟨chosen, reads, selected⟩ none

end Selection

/-! A party's parameters from the wallet. -/

section Params
variable {w} {answers : WalletAnswers} {env : AcceptEnvironment} {C : Crypto}
  {ownCollateral feeRate : ℕ} {signer : ContractSigner} {chosen : List LocalOutput}

/-- The request comes to the wallet, which chooses the coins. -/
structure Asked (w : Wallet) (answers : WalletAnswers) (env : AcceptEnvironment)
    (ownCollateral feeRate : ℕ) (signer : ContractSigner) (chosen : List LocalOutput) : Prop where
  publicKey : ∃ key, signer.publicKey = .ok key
  address : ∃ spk, env.getNewAddress = .ok spk
  changeAddress : ∃ spk, env.getNewChangeAddress = .ok spk
  selects : ∃ required, requiredAmount ownCollateral feeRate = .ok required ∧
    w.Selects answers required feeRate chosen

/-- Without coins the wallet is left as it is. -/
theorem getPartyParams_refused
    (none : ¬ ∃ chosen, w.Asked answers env ownCollateral feeRate signer chosen) :
    ∃ e, getPartyParams answers env C ownCollateral feeRate signer w = (.error e, w) := by
  unfold getPartyParams
  rw [Handler.lift_bind]
  cases key : signer.publicKey with
  | error e => exact ⟨_, rfl⟩
  | ok fundPubkey =>
      dsimp only
      rw [Handler.lift_bind]
      cases address : env.getNewAddress with
      | error e => exact ⟨_, rfl⟩
      | ok payoutSpk =>
          dsimp only [answered]
          rw [Handler.lift_bind]
          cases change : env.getNewChangeAddress with
          | error e => exact ⟨_, rfl⟩
          | ok changeSpk =>
              dsimp only
              rw [Handler.lift_bind]
              cases asked : requiredAmount ownCollateral feeRate with
              | error e => exact ⟨_, rfl⟩
              | ok required =>
                  dsimp only
                  have unselected : ¬ ∃ chosen, w.Selects answers required feeRate chosen := by
                    rintro ⟨chosen, selects⟩
                    exact none ⟨chosen, ⟨_, key⟩, ⟨_, address⟩, ⟨_, change⟩, required, asked,
                      selects⟩
                  obtain ⟨e, refused⟩ := getUtxosForAmount_refused unselected
                  rw [Handler.bind_apply, refused]
                  exact ⟨e, rfl⟩

/-- The node has the coin's transaction, which can be read back. -/
def Known (env : AcceptEnvironment) (C : Crypto) (decode : Bytes → Option Transaction)
    (l : LocalOutput) : Prop :=
  ∃ tx, env.getTransaction l.outpoint.txid = .ok tx ∧ tx.computeTxid C = l.outpoint.txid ∧
    decode (env.encodeTransaction tx) = some tx ∧ tx.output[l.outpoint.vout]? = some l.txout

theorem selectInputs_known {decode : Bytes → Option Transaction} {utxos : List Utxo}
    {k totalInput : ℕ} (outpoints : utxos.map Utxo.outpoint = chosen.map LocalOutput.outpoint)
    (known : ∀ l ∈ chosen, Known env C decode l)
    (fits : totalInput + (chosen.map fun l => l.txout.value).sum < u64Limit) :
    ∃ inputs total, selectInputs env C k totalInput utxos = .ok (inputs, total) ∧
      inputs.map (fun i => i.2.outpoint) = chosen.map LocalOutput.outpoint ∧
      inputs.map (fun i => i.1.spends C decode) = chosen.map fun l => some l.outpoint := by
  induction chosen generalizing utxos k totalInput with
  | nil =>
      obtain rfl := List.map_eq_nil_iff.mp outpoints
      exact ⟨[], totalInput, rfl, rfl, rfl⟩
  | cons l rest ih =>
      cases utxos with
      | nil => cases outpoints
      | cons utxo utxos =>
          rw [List.map_cons, List.map_cons, List.cons.injEq] at outpoints
          rw [List.forall_mem_cons] at known
          rw [List.map_cons, List.sum_cons] at fits
          obtain ⟨named, others⟩ := outpoints
          obtain ⟨tx, answers, txid, reads, output⟩ := known.1
          have added : ofDlc (amountAdd totalInput l.txout.value) =
              .ok (totalInput + l.txout.value) := by
            rw [amountAdd, Checked.add, fit_of_lt _ (by omega)]
            rfl
          have rest_fits : totalInput + l.txout.value +
              (rest.map fun l => l.txout.value).sum < u64Limit := by omega
          obtain ⟨inputs, total, later, infos, spends⟩ :=
            ih (k := k + 1) others known.2 rest_fits
          rw [selectInputs, named, answers]
          simp only [answered, ok_bind, index, output, added, later]
          refine ⟨_, total, rfl, ?_, ?_⟩
          · rw [List.map_cons, List.map_cons, infos, txid]
          · rw [List.map_cons, List.map_cons, spends]
            simp only [FundingInput.spends, reads, Option.map_some, txid]

/-- With the coins' transactions the request returns parameters that spend the coins, which
are locked. -/
theorem getPartyParams_locks {decode : Bytes → Option Transaction}
    (asked : w.Asked answers env ownCollateral feeRate signer chosen)
    (writes : ∀ l ∈ chosen, answers.upsertUtxo l.outpoint = .ok ())
    (known : ∀ l ∈ chosen, Known env C decode l)
    (fits : (chosen.map fun l => l.txout.value).sum < u64Limit) :
    ∃ (params : PartyParams) (fundingInputs : List FundingInput),
      getPartyParams answers env C ownCollateral feeRate signer w =
        (.ok (params, fundingInputs), w.mark true (chosen.map LocalOutput.outpoint)) ∧
      params.inputs.map TxInputInfo.outpoint = chosen.map LocalOutput.outpoint ∧
      fundingInputs.map (·.spends C decode) = chosen.map fun l => some l.outpoint := by
  obtain ⟨⟨fundPubkey, key⟩, ⟨payoutSpk, address⟩, ⟨changeSpk, change⟩, required, amount,
    selects⟩ := asked
  obtain ⟨utxos, outpoints, locked⟩ := selects.locks writes
  have named : (utxos.map WalletUtxo.toUtxo).map Utxo.outpoint =
      chosen.map LocalOutput.outpoint := by
    rw [List.map_map]
    exact outpoints
  have small : 0 + (chosen.map fun l => l.txout.value).sum < u64Limit := by omega
  obtain ⟨inputs, total, selected, infos, spends⟩ := selectInputs_known (k := 2) named known small
  let params : PartyParams :=
    { fundPubkey, changeScriptPubkey := changeSpk
      changeSerialId := env.getNewSerialId 1
      payoutScriptPubkey := payoutSpk
      payoutSerialId := env.getNewSerialId 0
      inputs := inputs.map Prod.snd
      inputAmount := total
      collateral := ownCollateral }
  refine ⟨params, inputs.map Prod.fst, ?_, ?_, ?_⟩
  · unfold getPartyParams
    rw [Handler.lift_bind, key]
    dsimp only
    rw [Handler.lift_bind, address]
    dsimp only [answered]
    rw [Handler.lift_bind, change]
    dsimp only
    rw [Handler.lift_bind, amount]
    dsimp only
    rw [Handler.bind_apply, locked]
    dsimp only
    rw [Handler.lift_bind, selected]
    rfl
  · rw [List.map_map]
    exact infos
  · rw [List.map_map]
    exact spends

/-- The request returns what it returns when the wallet is only asked. -/
theorem getPartyParams_answer
    (agrees : ∀ required, requiredAmount ownCollateral feeRate = .ok required →
      (getUtxosForAmount answers required feeRate true w).1.map (List.map WalletUtxo.toUtxo) =
        answered (env.getUtxosForAmount required feeRate)) :
    (getPartyParams answers env C ownCollateral feeRate signer w).1 =
      Manager.getPartyParams env C ownCollateral feeRate signer := by
  unfold getPartyParams Manager.getPartyParams
  cases signer.publicKey with
  | error e => rfl
  | ok fundPubkey =>
      rw [Handler.lift_bind, ok_bind]
      dsimp only
      cases answered env.getNewAddress with
      | error e => rfl
      | ok payoutSpk =>
          rw [Handler.lift_bind, ok_bind]
          dsimp only
          cases answered env.getNewChangeAddress with
          | error e => rfl
          | ok changeSpk =>
              rw [Handler.lift_bind, ok_bind]
              dsimp only
              cases amount : requiredAmount ownCollateral feeRate with
              | error e => rfl
              | ok required =>
                  rw [Handler.lift_bind, ok_bind, ← agrees required amount]
                  dsimp only
                  rw [Handler.bind_apply]
                  cases getUtxosForAmount answers required feeRate true w with
                  | mk answer w' =>
                      cases answer with
                      | error e => rfl
                      | ok utxos =>
                          dsimp only [Except.map]
                          rw [Handler.lift_bind, ok_bind]
                          cases selectInputs env C 2 0 (utxos.map WalletUtxo.toUtxo) with
                          | error e => rfl
                          | ok selected => rfl

end Params

end Wallet

end P2PLending.Manager
