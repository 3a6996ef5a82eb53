import P2PLending.Manager.LoanFunding
import P2PLending.Manager.Acceptance
import P2PLending.Contract.Token
import P2PLending.Dlc.EscrowScript
import P2PLending.Dlc.LoanValue

/-! The start of a loan over both chains: the lender's manager, a borrower who sends
it any messages, the lending contract and the coin of the escrow. The borrower's
signature over the collateral transaction comes with the final acceptance only, so
from the claim to that message the lender has the borrower's preimage and nothing else. -/

namespace P2PLending.Manager
open Dlc Checked

/-- One loan: the keys, the hashes and the coin, and the deployed contract, which
hashes as the Bitcoin script does. -/
structure LoanStart (Ledger : Type) where
  crypto : Crypto
  lawful : crypto.Lawful
  deployment : P2PLending.Contract.Deployment Ledger
  sameHash : deployment.sha256 = crypto.sha256
  lenderAddress : P2PLending.Contract.Address
  lenderSecret : SecretKey
  borrowerPubkey : PublicKey
  borrowerHash : Bytes32
  lenderHash : Bytes32
  escrow : OutPoint
  escrowValue : ℕ

/-- The escrow's coin, with the blocks since its confirmation. -/
inductive Coin
  | absent
  | unspent (age : ℕ)
  | spent (tx : Transaction) (index : ℕ) (witness : List Bytes) (age : ℕ)

def Coin.older (n : ℕ) : Coin → Coin
  | .unspent age => .unspent (age + n)
  | coin => coin

/-- The lender's node and the final acceptances it received, the contract and the
preimages it has paid a claim for, and the coin. -/
structure World (D : Descriptors) (Ledger : Type) where
  lender : Node D
  received : List AcceptLoanDlc
  contract : P2PLending.Contract.State Ledger
  claimed : List Uint128
  coin : Coin

variable {D : Descriptors} {Ledger : Type}

namespace World

def start (lender : Node D) (contract : P2PLending.Contract.State Ledger) : World D Ledger :=
  ⟨lender, [], contract, [], .absent⟩

variable (w : World D Ledger)

/-- What the lender has seen of the witnesses of the borrower's transactions. -/
def seen : List Bytes :=
  w.received.flatMap fun msg => msg.signedEscrowSpendTx.input.flatMap TxIn.witness

/-- The escrow is spent by the borrower alone, after `age` blocks. -/
def TakenAlone (age : ℕ) : Prop := ∃ tx index sig, w.coin = .spent tx index [sig] age

/-- The escrow is spent with the signatures of both. -/
def SpentTogether : Prop :=
  ∃ tx index lenderSig preimage sig age, w.coin = .spent tx index [lenderSig, preimage, sig] age

end World

/-- A message to the lender, a call of the contract by anyone but the lender, the
escrow's confirmation, blocks on Bitcoin, or a spend of the escrow. -/
inductive Move (D : Descriptors)
  | deliver (d : Delivery D)
  | call (env : P2PLending.Contract.Env) (sender : P2PLending.Contract.Address)
      (c : P2PLending.Contract.Call)
  | fund
  | blocks (n : ℕ)
  | spend (tx : Transaction) (index : ℕ) (witness : List Bytes)

def Delivery.acceptance (d : Delivery D) : Option AcceptLoanDlc :=
  match d.message with
  | .acceptLoan msg => some msg
  | _ => none

namespace LoanStart
variable (S : LoanStart Ledger)

def lenderPubkey : PublicKey := S.crypto.publicKey S.lenderSecret

def jointScript : List Script.Op := makeLoanEscrowAfterCodesepScript S.lenderPubkey S.borrowerHash

/-- The escrow's script accepts the witness for the input, which spends the escrow. -/
def Accepted (tx : Transaction) (index : ℕ) (witness : List Bytes) : Prop :=
  (∃ input, tx.input[index]? = some input ∧ input.previousOutput = S.escrow) ∧
    Script.accepts (checker S.crypto tx index S.escrowValue)
      (escrowScript S.borrowerPubkey S.lenderPubkey S.borrowerHash) witness = true

/-- The transaction has an output under the collateral script. -/
def PaysCollateral (tx : Transaction) : Prop :=
  ∃ output ∈ tx.output, output.scriptPubkey = toP2wsh S.crypto (Script.toBytes
    (makeCollateralRedeemscript S.borrowerPubkey S.lenderPubkey S.lenderHash))

/-- A call that the lender's handler sent is executed, or reverts. -/
def Lends (s : P2PLending.Contract.State Ledger) (sent : Option (Bytes32 × ℕ))
    (s' : P2PLending.Contract.State Ledger) : Prop :=
  s' = s ∨ ∃ env hash amount events, sent = some (hash, amount) ∧
    P2PLending.Contract.lendStable S.deployment env S.lenderAddress s hash amount =
      .ok (s', events)

inductive Step : World D Ledger → Move D → World D Ledger → Prop
  | deliver {w : World D Ledger} {d : Delivery D} {contract : P2PLending.Contract.State Ledger}
      (lent : S.Lends w.contract (d.sent w.lender) contract) :
      Step w (.deliver d)
        { w with
          lender := w.lender.deliver S.crypto d
          received := w.received ++ d.acceptance.toList
          contract }
  | call {w : World D Ledger} {env : P2PLending.Contract.Env}
      {sender : P2PLending.Contract.Address} {c : P2PLending.Contract.Call}
      {contract : P2PLending.Contract.State Ledger} {events : List P2PLending.Contract.Event}
      (foreign : sender ≠ S.lenderAddress)
      (done : P2PLending.Contract.exec S.deployment env sender w.contract c =
        .ok (contract, events)) :
      Step w (.call env sender c)
        { w with contract, claimed := w.claimed ++ c.claimed.toList }
  | fund {w : World D Ledger} (absent : w.coin = .absent) :
      Step w .fund { w with coin := .unspent 0 }
  | blocks {w : World D Ledger} {n : ℕ} : Step w (.blocks n) { w with coin := w.coin.older n }
  | spend {w : World D Ledger} {tx : Transaction} {index age : ℕ} {witness : List Bytes}
      (unspent : w.coin = .unspent age) (accepted : S.Accepted tx index witness)
      (passed : ∀ blocks, EnforcesBlocks tx index blocks → blocks ≤ age) :
      Step w (.spend tx index witness) { w with coin := .spent tx index witness age }

section Worlds
variable (w : World D Ledger)

/-- A claim with a preimage of the borrower's hash was paid. -/
def Paid : Prop := ∃ p ∈ w.claimed, S.crypto.sha256 p.toBeBytes = S.borrowerHash

/-- The contract shows a preimage of the borrower's hash. -/
def Shown : Prop :=
  S.crypto.sha256 (w.contract.stableLoans S.borrowerHash).borrowerPreimage.toBeBytes =
    S.borrowerHash

/-- The borrower has sent its signature over a spend of the escrow into the collateral. -/
def Released : Prop :=
  ∃ tx index sig,
    (∃ input, tx.input[index]? = some input ∧ input.previousOutput = S.escrow) ∧
    S.PaysCollateral tx ∧ sig ∈ w.seen ∧ sig.length ≤ 520 ∧
    ValidSignature S.crypto tx index S.escrowValue S.jointScript sig S.borrowerPubkey

/-- With a signature it has seen, the preimage on the contract and a signature of its
own the lender can spend the escrow into the collateral. Signatures are not forged and
preimages not guessed, so it has no others. -/
def LenderCanSpend : Prop :=
  ∃ tx index lenderSig sig, S.PaysCollateral tx ∧ sig ∈ w.seen ∧
    S.Accepted tx index
      [lenderSig, (w.contract.stableLoans S.borrowerHash).borrowerPreimage.toBeBytes, sig]

end Worlds

/-! What every run keeps. -/

/-- The contract shows a preimage once a claim was paid, and the coin was spent by
what its script accepts, after the blocks that the spend waits for. -/
structure Sound (w : World D Ledger) : Prop where
  shown : S.Paid w → S.Shown w
  spent : ∀ tx index witness age, w.coin = .spent tx index witness age →
    S.Accepted tx index witness ∧ ∀ blocks, EnforcesBlocks tx index blocks → blocks ≤ age

variable {S} {w w' : World D Ledger} {m : Move D}

theorem Lends.borrowerPreimage {s s' : P2PLending.Contract.State Ledger}
    {sent : Option (Bytes32 × ℕ)} (lent : S.Lends s sent s') (h : Bytes32) :
    (s'.stableLoans h).borrowerPreimage = (s.stableLoans h).borrowerPreimage := by
  cases lent with
  | inl same => rw [same]
  | inr executed =>
      obtain ⟨env, hash, amount, events, _, done⟩ := executed
      have call : P2PLending.Contract.exec S.deployment env S.lenderAddress s
          (.lendStable hash amount) = .ok (s', events) := done
      exact P2PLending.Contract.exec_borrowerPreimage call h

theorem shown_call {env : P2PLending.Contract.Env} {sender : P2PLending.Contract.Address}
    {c : P2PLending.Contract.Call} {s' : P2PLending.Contract.State Ledger}
    {events : List P2PLending.Contract.Event}
    (done : P2PLending.Contract.exec S.deployment env sender w.contract c = .ok (s', events))
    (shown : S.Paid w → S.Shown w)
    (paid : S.Paid { w with contract := s', claimed := w.claimed ++ c.claimed.toList }) :
    S.crypto.sha256 (s'.stableLoans S.borrowerHash).borrowerPreimage.toBeBytes =
      S.borrowerHash := by
  have hashes : ∀ p, P2PLending.Contract.preimageHash S.deployment p =
      S.crypto.sha256 p.toBeBytes := fun p => congrFun S.sameHash p.toBeBytes
  obtain ⟨p, listed, hash⟩ := paid
  rw [P2PLending.Contract.exec_borrowerPreimage done]
  match shows : c.claimed with
  | none =>
      rw [shows, Option.toList_none, List.append_nil] at listed
      exact shown ⟨p, listed, hash⟩
  | some p' =>
      rw [Option.filter_some, hashes]
      by_cases own : S.crypto.sha256 p'.toBeBytes = S.borrowerHash
      · rw [decide_eq_true own]
        exact own
      · rw [decide_eq_false own]
        rw [shows, Option.toList_some, List.mem_append, List.mem_singleton] at listed
        cases listed with
        | inl earlier => exact shown ⟨p, earlier, hash⟩
        | inr last => exact absurd (last ▸ hash) own

theorem sound_step (sound : S.Sound w) (moved : S.Step w m w') : S.Sound w' := by
  obtain ⟨shown, spent⟩ := sound
  cases moved with
  | deliver lent =>
      refine ⟨?_, spent⟩
      intro paid
      unfold Shown
      rw [lent.borrowerPreimage]
      exact shown paid
  | call foreign done => exact ⟨shown_call done shown, spent⟩
  | fund absent =>
      refine ⟨shown, ?_⟩
      intro tx index witness age other
      cases other
  | blocks =>
      refine ⟨shown, ?_⟩
      intro tx index witness age aged
      match coin : w.coin with
      | .absent => simp [coin, Coin.older] at aged
      | .unspent old => simp [coin, Coin.older] at aged
      | .spent tx' index' witness' age' =>
          rw [coin] at aged
          exact spent tx index witness age (coin.trans aged)
  | spend unspent accepted passed =>
      refine ⟨shown, ?_⟩
      intro tx index witness age same
      cases same
      exact ⟨accepted, passed⟩

theorem sound_run {lender : Node D} {contract : P2PLending.Contract.State Ledger}
    {moves : List (Move D)} (run : Run (S.Step) (World.start lender contract) moves w) :
    S.Sound w := by
  apply run.invariant S.Sound
  · refine ⟨?_, ?_⟩
    · intro ⟨p, listed, _⟩
      cases listed
    · intro tx index witness age other
      cases other
  · intro w m w' sound moved
    exact sound_step sound moved

/-- A spent coin stays as it was spent. -/
theorem coin_spent_stays {tx : Transaction} {index age : ℕ} {witness : List Bytes}
    {moves : List (Move D)} (spent : w.coin = .spent tx index witness age)
    (run : Run S.Step w moves w') : w'.coin = .spent tx index witness age := by
  apply run.invariant (fun w => w.coin = .spent tx index witness age) spent
  intro w m w' spent moved
  cases moved with
  | deliver lent => exact spent
  | call foreign done => exact spent
  | fund absent => cases spent.symm.trans absent
  | blocks => exact congrArg (Coin.older _) spent
  | spend unspent accepted passed => cases spent.symm.trans unspent

/-- With the preimage shown, the lender can spend the escrow into the collateral
exactly when the borrower has released its signature over such a spend. -/
theorem lenderCanSpend_iff (shown : S.Shown w) : S.LenderCanSpend w ↔ S.Released w := by
  have several : ∀ lenderSig preimage sig : Bytes, [lenderSig, preimage, sig].length ≠ 1 := by
    intro lenderSig preimage sig
    simp
  constructor
  · intro ⟨tx, index, lenderSig, sig, pays, seen, spends, accepted⟩
    obtain ⟨fits, _, _, borrowerSig, shape, _, _, valid, _⟩ :=
      (accepts_escrow_several S.lawful (several _ _ _)).mp accepted
    have same : sig = borrowerSig := by simpa using congrArg List.getLast? shape
    have length : sig.length ≤ 520 := fits sig (by simp)
    exact ⟨tx, index, sig, spends, pays, seen, length, same ▸ valid⟩
  · intro ⟨tx, index, sig, spends, pays, seen, length, valid⟩
    have ⟨input, present, _⟩ := spends
    obtain ⟨lenderSig, own⟩ := getSigForTxInput_exists S.crypto tx (Script.toBytes S.jointScript)
      S.escrowValue S.lenderSecret (List.getElem?_eq_some_iff.mp present).1
    obtain ⟨signed, short⟩ := validSignature_of_getSig S.lawful own
    refine ⟨tx, index, lenderSig, sig, pays, seen, spends, ?_⟩
    apply (accepts_escrow_several S.lawful (several _ _ _)).mpr
    refine ⟨?_, _, _, sig, rfl, Uint128.toBeBytes_length _, shown, valid, signed⟩
    refine List.forall_mem_cons.mpr ⟨short, ?_⟩
    refine List.forall_mem_cons.mpr ⟨?_, List.forall_mem_singleton.mpr length⟩
    rw [Uint128.toBeBytes_length]
    omega

/-- The borrower's second stage releases the signature: its collateral transaction,
once the lender has received it, is such a spend. -/
theorem released_of_collateral {env : AcceptEnvironment} {offered : OfferedLoanContract D}
    {signer : ContractSigner} {sk : SecretKey} {borrowerPreimageBytes script : Bytes}
    {collateralTx : Transaction} {msg : AcceptLoanDlc}
    (built : borrowerCollateral env S.crypto offered S.escrow.txid S.borrowerHash
      borrowerPreimageBytes signer = .ok (collateralTx, script, S.escrowValue))
    (key : signer.publicKey = .ok S.borrowerPubkey) (secret : signer.secretKey = .ok sk)
    (pair : S.borrowerPubkey = S.crypto.publicKey sk) (vout : S.escrow.vout = 0)
    (lender : offered.offeredContract.offerParams.fundPubkey = S.lenderPubkey)
    (hash : offered.lenderHash = S.lenderHash) (listed : msg ∈ w.received)
    (sent : msg.signedEscrowSpendTx = collateralTx) : S.Released w := by
  simp only [borrowerCollateral, key, secret, lender, hash, bind_eq_ok, unwrap_eq_ok,
    answered_eq_ok, index_eq_ok, ofDlc_eq_ok, createCollateralTransaction_eq_ok, Except.ok.injEq,
    Prod.exists, Prod.mk.injEq, exists_eq_left'] at built
  obtain ⟨escrowTx, known, output, first, tx, redeem, ⟨_, rfl, rfl⟩, sig, signed, rfl, rfl, value⟩ :=
    built
  rw [value] at signed
  obtain ⟨valid, length⟩ := validSignature_of_getSig S.lawful signed
  rw [← pair] at valid
  refine ⟨_, 0, sig, ⟨_, rfl, ?_⟩, ⟨_, List.mem_cons_self, rfl⟩, ?_, length, valid⟩
  · rw [← vout]
  · refine List.mem_flatMap.mpr ⟨msg, listed, ?_⟩
    rw [sent]
    simp [Transaction.setWitness]

/-- The borrower alone waits for the timelock. -/
theorem takenAlone_waits {age : ℕ} (sound : S.Sound w) (taken : w.TakenAlone age) :
    16384 ≤ age := by
  obtain ⟨tx, index, sig, coin⟩ := taken
  obtain ⟨⟨_, accepted⟩, passed⟩ := sound.spent tx index [sig] age coin
  exact passed 16384 ((accepts_escrow_single S.lawful).mp accepted).2.2

end LoanStart

/-! A borrower who claims, stays silent and takes the escrow back. -/

/-- The borrower's spend of the escrow after 16384 blocks. -/
def sampleTimeoutSpend : Transaction where
  lockTime := 0
  input := [{
    previousOutput := ⟨sampleFundTxid, 0⟩
    scriptSig := []
    sequence := 16384
    witness := [] }]
  output := [{ value := 100000000, scriptPubkey := sampleSpk₂ }]

def sampleTimeoutDigest : Message :=
  0x8512786d97f3873641497fda8a775409566556a191189fc5e1a4955e06ac9c90

def sampleTimeoutSignature : Signature :=
  0x7038c6f3a0a01c0136d482061d1034c4d64fb4674ff31ef8e345a4299dbf97577af211d0b0d7f97c025b692463f8e0ac3e476fce0c76e93d7f06d313ac57b2d2

/-- The scheme with the borrower's signature over this spend. -/
def timeoutCrypto : Crypto :=
  cryptoOf [⟨2, sampleTimeoutDigest, sampleTimeoutSignature⟩]
    (fun b => if b = samplePreimage.toBeBytes then samplePreimageHash else 0)
    fun hashType tx index script value =>
      if hashType = sighashAll ∧ tx = sampleTimeoutSpend ∧ index = 0 ∧
          script = Script.toBytes (escrowScript sampleKey₂ sampleKey₁ samplePreimageHash) ∧
          value = 100000314 then sampleTimeoutDigest
      else 0

def sampleStart : LoanStart P2PLending.Contract.TokenLedger where
  crypto := timeoutCrypto
  lawful := cryptoOf_lawful _ _ _
  deployment := { P2PLending.Contract.sampleDeployment with sha256 := timeoutCrypto.sha256 }
  sameHash := rfl
  lenderAddress := 1
  lenderSecret := 1
  borrowerPubkey := sampleKey₂
  borrowerHash := samplePreimageHash
  lenderHash := 5
  escrow := ⟨sampleFundTxid, 0⟩
  escrowValue := 100000314

/-- The lender pays for a stored offer, and account two claims. -/
def claimMoves : List (Move sampleDescriptors) :=
  [.deliver ⟨sampleEnvironment, sampleKey₂,
      .initiateAcceptLoan ⟨7, samplePreimageHash, sampleFundTxid⟩ sampleEvmKey⟩,
    .call (P2PLending.Contract.sampleEnv 0 (60000 * 10 ^ 8) (10 ^ 8)) 2
      (.claimStable samplePreimage)]

theorem claim_reached :
    ∃ w, Run sampleStart.Step (World.start sampleNode
        (.fresh P2PLending.Contract.sampleLedger)) claimMoves w ∧
      sampleStart.Paid w ∧ w.received = [] ∧ w.coin = .absent := by
  have executed : ∃ lent lentEvents claimed claimEvents,
      P2PLending.Contract.lendStable sampleStart.deployment
        (P2PLending.Contract.sampleEnv 0 (60000 * 10 ^ 8) (10 ^ 8)) 1
        (.fresh P2PLending.Contract.sampleLedger) samplePreimageHash 100000000 =
          .ok (lent, lentEvents) ∧
      P2PLending.Contract.exec sampleStart.deployment
        (P2PLending.Contract.sampleEnv 0 (60000 * 10 ^ 8) (10 ^ 8)) 2 lent
        (.claimStable samplePreimage) = .ok (claimed, claimEvents) :=
    ⟨_, _, _, _, rfl, rfl⟩
  obtain ⟨lent, lentEvents, claimed, claimEvents, lends, claims⟩ := executed
  have paid : sampleStart.crypto.sha256 samplePreimage.toBeBytes = sampleStart.borrowerHash := by
    decide +kernel
  refine ⟨_, (Run.nil.snoc (.deliver (.inr ⟨_, _, _, _, rfl, lends⟩))).snoc
    (.call (by decide) claims), ⟨samplePreimage, ?_, paid⟩, rfl, rfl⟩
  exact List.mem_cons_self

end P2PLending.Manager
