import P2PLending.Channels.OfferRoles

/-! The secrets that a node has put into its messages, and the buffer and settle
transactions that it broadcasts afterwards. -/

namespace P2PLending.Manager.Channels
open Dlc Checked Relation

/-- The own per-update secret that a message reveals. -/
def DlcMessage.secret? {M : Type} : DlcMessage M → Option SecretKey
  | .settleConfirm m => some m.prevPerUpdateSecret
  | .settleFinalize m => some m.prevPerUpdateSecret
  | .renewFinalize m => some m.perUpdateSecret
  | .renewRevoke m => some m.perUpdateSecret
  | _ => none

/-- The own per-update point of a buffer or settle transaction. -/
def Sent.point? : Sent → Option PublicKey
  | .buffer _ point | .settle _ point => some point
  | _ => none

section Revoked
variable (X : ChannelCrypto) {M : Type}

/-- A message that reveals the secret of a transaction broadcast later. -/
def Output.Revokes (revealed sent : Output M) : Prop :=
  ∃ m secret b, revealed = .message m ∧ m.secret? = some secret ∧ sent = .broadcast b ∧
    b.point? = some (X.publicKey secret)

/-- No transaction is broadcast after its secret has been revealed. -/
def NeverRevoked (log : List (Output M)) : Prop := log.Pairwise fun a b => ¬ a.Revokes X b

def Revealed (log : List (Output M)) (secret : SecretKey) : Prop :=
  ∃ m, .message m ∈ log ∧ m.secret? = some secret

end Revoked

namespace SignedChannelState

/-- The own point of the next state, as far as it has been chosen. -/
def ownNextPoint : SignedChannelState → Option PublicKey
  | settledOffered s => some s.nextPerUpdatePoint
  | settledAccepted s => some s.ownNextPerUpdatePoint
  | settledConfirmed s => some s.ownNextPerUpdatePoint
  | renewOffered s => if s.isOffer then some s.offerNextPerUpdatePoint else none
  | renewAccepted s => some s.acceptPerUpdatePoint
  | renewConfirmed s => some s.offerPerUpdatePoint
  | _ => none

/-- The states that have revealed the secret of the state to go back to. -/
def revealing : SignedChannelState → Bool
  | settledConfirmed _ | renewFinalized _ => true
  | _ => false

/-- The channel is being closed. -/
def leaving : SignedChannelState → Bool
  | closing _ | collaborativeCloseOffered _ => true
  | _ => false

/-- The states from which a party alone closes. -/
def closable : SignedChannelState → Bool
  | established _ | settled _ | renewFinalized _ => true
  | _ => false

/-- The state whose force close goes back to a revoked one. -/
def settling : SignedChannelState → Bool
  | settledConfirmed _ => true
  | _ => false

theorem atRest_quiet {state : SignedChannelState} (rest : state.atRest = true) :
    state.revealing = false ∧ state.leaving = false ∧ state.ownNextPoint = none := by
  cases state <;> first | exact ⟨rfl, rfl, rfl⟩ | cases rest

theorem revealing_settling {state : SignedChannelState} (quiet : state.revealing = false) :
    state.settling = false := by
  cases state <;> first | rfl | cases quiet

theorem closable_open {state : SignedChannelState} (closable : state.closable = true) :
    state.leaving = false ∧ state.settling = false := by
  cases state <;> first | exact ⟨rfl, rfl⟩ | cases closable

end SignedChannelState

namespace SignedChannel
variable {X : ChannelCrypto} (signer : Signer) (ch : SignedChannel X)

/-- The own secret of an update. -/
def OwnSecret (idx : ℕ) (secret : SecretKey) : Prop :=
  ∃ seed, ch.seed signer = .ok seed ∧ secret = X.buildCommitmentSecret seed idx

/-- A point that is not one of the own ones from an index on. -/
def Fresh (idx : ℕ) (point : PublicKey) : Prop :=
  ∀ i secret, idx ≤ i → i < 2 ^ 48 → ch.OwnSecret signer i secret → point ≠ X.publicKey secret

/-- The secrets from this index on may have been revealed. -/
def revealedFrom : ℕ := if ch.state.revealing then ch.updateIdx else ch.updateIdx + 1

/-- The revealed secrets are of past updates; the own points are not. -/
structure Intact {M : Type} (log : List (Output M)) : Prop where
  bound : ch.updateIdx < 2 ^ 48
  revealed : ch.state.leaving = false → ∀ secret, Revealed log secret →
    ∃ i, ch.revealedFrom ≤ i ∧ i < 2 ^ 48 ∧ ch.OwnSecret signer i secret
  own : ch.state.leaving = false → ch.state.settling = false →
    ch.Fresh signer ch.revealedFrom ch.ownPerUpdatePoint
  next : ∀ point, ch.state.ownNextPoint = some point → ch.Fresh signer ch.updateIdx point
  back : ∀ s b, ch.state = .collaborativeCloseOffered s → ch.rollBackState = some b →
    b.closable = true → ∀ secret, Revealed log secret → ch.ownPerUpdatePoint ≠ X.publicKey secret

end SignedChannel

/-- The secrets of different updates have different points. -/
def DistinctPoints (X : ChannelCrypto) : Prop :=
  ∀ seed i j, i < 2 ^ 48 → j < 2 ^ 48 →
    X.publicKey (X.buildCommitmentSecret seed i) = X.publicKey (X.buildCommitmentSecret seed j) →
    i = j

section Runs
variable {X : ChannelCrypto} {signer : Signer} {E : SigningDescriptors} {W : Wire E.toDescriptors}
  {A M : Type} {env : Environment E.toDescriptors} {may : SignedChannel X → Prop}
  {n n' : Node X E.toDescriptors} {ch ch' : SignedChannel X} {out : Option (DlcMessage W.ContractInfo)}
  {log : List (Output M)}

theorem revealed_append {more : List (Output M)} {secret : SecretKey} :
    Revealed (log ++ more) secret ↔ Revealed log secret ∨ Revealed more secret := by
  simp only [Revealed, List.mem_append, or_and_right, exists_or]

theorem revealed_broadcasts {sent : List Sent} {secret : SecretKey} :
    ¬ Revealed (sent.map .broadcast : List (Output M)) secret := by
  rintro ⟨m, listed, -⟩
  obtain ⟨b, -, other⟩ := List.mem_map.mp listed
  cases other

theorem revealed_message {m : DlcMessage M} {secret : SecretKey} :
    Revealed [.message m] secret ↔ m.secret? = some secret := by
  simp [Revealed]

namespace SignedChannel

theorem Fresh.mono {i j : ℕ} {point : PublicKey} (fresh : ch.Fresh signer i point) (le : i ≤ j) :
    ch.Fresh signer j point :=
  fun k secret from_ => fresh k secret (le.trans from_)

/-- The own point of an index is not one of a later index. -/
theorem fresh_of_point (distinct : DistinctPoints X) {idx i : ℕ} {seed : SecretKey}
    (seeded : ch.seed signer = .ok seed) (bound : idx < 2 ^ 48) (above : idx < i) :
    ch.Fresh signer i (X.publicKey (X.buildCommitmentSecret seed idx)) := by
  rintro j secret from_ below ⟨seed', seeded', rfl⟩ same
  cases seeded.symm.trans seeded'
  have := distinct seed idx j bound below same
  omega

/-- The next point is not one of the current index or of a past one. -/
theorem fresh_next (distinct : DistinctPoints X) {fault : Fault Error} {point : PublicKey}
    (bound : ch.updateIdx < 2 ^ 48) (next : nextPerUpdatePoint X signer fault ch = .ok point) :
    ch.Fresh signer ch.updateIdx point := by
  obtain ⟨seed, seeded, positive, rfl⟩ := nextPerUpdatePoint_ok next
  exact fresh_of_point distinct seeded (by omega) (by omega)

namespace Intact
variable (intact : ch.Intact signer log)
include intact

/-- A revealed secret is not that of the own point. -/
theorem unrevealed (stays : ch.state.leaving = false) (other : ch.state.settling = false)
    {secret : SecretKey} (revealed : Revealed log secret) :
    ch.ownPerUpdatePoint ≠ X.publicKey secret := by
  obtain ⟨i, from_, below, own⟩ := intact.revealed stays secret revealed
  exact intact.own stays other i secret from_ below own

theorem less {log' : List (Output M)} (fewer : ∀ secret, Revealed log' secret → Revealed log secret) :
    ch.Intact signer log' :=
  ⟨intact.bound, fun stays secret revealed => intact.revealed stays secret (fewer secret revealed),
    intact.own, intact.next, fun s b state kept closable secret revealed =>
      intact.back s b state kept closable secret (fewer secret revealed)⟩

/-- More outputs that reveal nothing. -/
theorem tell {more : List (Output M)} (nothing : ∀ secret, ¬ Revealed more secret) :
    ch.Intact signer (log ++ more) :=
  intact.less fun secret revealed => (revealed_append.mp revealed).resolve_right (nothing secret)

/-- From a state that has revealed nothing to the next one that has not. -/
theorem proceed {state : SignedChannelState} {before : Option SignedChannelState}
    (stays : ch.state.leaving = false) (quiet : ch.state.revealing = false)
    (stays' : state.leaving = false) (quiet' : state.revealing = false)
    (next : ∀ point, state.ownNextPoint = some point → ch.Fresh signer ch.updateIdx point) :
    ({ ch with state, rollBackState := before } : SignedChannel X).Intact signer log := by
  have from_ : ch.revealedFrom = ch.updateIdx + 1 := by
    rw [revealedFrom, quiet]
    rfl
  have from' : ({ ch with state, rollBackState := before } : SignedChannel X).revealedFrom =
      ch.updateIdx + 1 := by
    simp only [revealedFrom, quiet']
    rfl
  refine ⟨intact.bound, fun _ => ?_, fun _ _ => ?_, next, ?_⟩
  · rw [from', ← from_]
    exact intact.revealed stays
  · rw [from', ← from_]
    exact intact.own stays (SignedChannelState.revealing_settling quiet)
  · rintro s b rfl
    cases stays'

/-- The revealed secrets once the current one is among them. -/
theorem reveal {m : DlcMessage M} {secret : SecretKey} (stays : ch.state.leaving = false)
    (said : m.secret? = some secret) (own : ch.OwnSecret signer ch.updateIdx secret) :
    ∀ secret, Revealed (log ++ [.message m]) secret →
      ∃ i, ch.updateIdx ≤ i ∧ i < 2 ^ 48 ∧ ch.OwnSecret signer i secret := by
  intro secret' revealed
  rcases revealed_append.mp revealed with old | new
  · obtain ⟨i, from_, below, own⟩ := intact.revealed stays secret' old
    refine ⟨i, le_trans ?_ from_, below, own⟩
    unfold revealedFrom
    split <;> omega
  · rw [revealed_message, said, Option.some.injEq] at new
    exact ⟨ch.updateIdx, le_rfl, intact.bound, new ▸ own⟩

omit intact in
/-- The next update: the past secrets are revealed, the new point is not one of them. -/
theorem advance {ch' : SignedChannel X} (bound : ch.updateIdx < 2 ^ 48)
    (positive : 1 ≤ ch.updateIdx) (idx : ch'.updateIdx = ch.updateIdx - 1)
    (rest : ch'.state.atRest = true) (seed : ch'.ownPerUpdateSeed = ch.ownPerUpdateSeed)
    (revealed : ∀ secret, Revealed log secret →
      ∃ i, ch.updateIdx ≤ i ∧ i < 2 ^ 48 ∧ ch.OwnSecret signer i secret)
    (own : ch.Fresh signer ch.updateIdx ch'.ownPerUpdatePoint) : ch'.Intact signer log := by
  have same : ch'.seed signer = ch.seed signer := by
    rw [SignedChannel.seed, seed, SignedChannel.seed]
  have owns : ∀ i secret, ch'.OwnSecret signer i secret ↔ ch.OwnSecret signer i secret := by
    intro i secret
    rw [OwnSecret, same, OwnSecret]
  obtain ⟨quiet, -, unchosen⟩ := SignedChannelState.atRest_quiet rest
  have from_ : ch'.revealedFrom = ch.updateIdx := by
    rw [revealedFrom, quiet, idx]
    simp only [Bool.false_eq_true, if_false]
    omega
  refine ⟨by omega, fun _ secret known => ?_, fun _ _ i secret above below mine => ?_, ?_, ?_⟩
  · obtain ⟨i, above, below, mine⟩ := revealed secret known
    exact ⟨i, from_ ▸ above, below, (owns i secret).mpr mine⟩
  · exact own i secret (from_ ▸ above) below ((owns i secret).mp mine)
  · intro point chosen
    cases unchosen.symm.trans chosen
  · intro s b state
    rw [state] at rest
    cases rest

/-- A channel that is being closed; to go back is harmless where it is possible. -/
theorem leave {state : SignedChannelState} (leaves : state.leaving = true)
    (unchosen : state.ownNextPoint = none) :
    (ch.enter state).Intact signer log := by
  refine ⟨intact.bound, fun stays => ?_, fun stays => ?_, ?_, ?_⟩
  · exact absurd leaves (by rw [show state.leaving = false from stays]; simp)
  · exact absurd leaves (by rw [show state.leaving = false from stays]; simp)
  · intro point chosen
    cases unchosen.symm.trans chosen
  · rintro s b - kept closable secret revealed
    obtain rfl : ch.state = b := Option.some.inj kept
    obtain ⟨stays, other⟩ := SignedChannelState.closable_open closable
    exact intact.unrevealed stays other revealed

end Intact

end SignedChannel

namespace Node

/-- The channel, if it is still signed, is intact. -/
def Intact (signer : Signer) (n : Node X E.toDescriptors) (log : List (Output M)) : Prop :=
  ∀ ch, n.channel = .signed ch → ch.Intact signer log

theorem Moves.intact {log : List (Output W.ContractInfo)} (distinct : DistinctPoints X)
    (moved : Moves X signer W n out n') (rested : n.Rested) (before : n.Intact signer log)
    (foreign : ∀ ch s msg, n.channel = .signed ch → ch.state = .renewOffered s →
      out = some (.renewConfirm msg) → s.isOffer = false →
      ch.Fresh signer ch.updateIdx s.offerNextPerUpdatePoint) :
    n'.Intact signer (log ++ out.toList.map .message) := by
  have silent : ∀ m : DlcMessage W.ContractInfo, m.secret? = none →
      ∀ secret, ¬ Revealed [Output.message m] secret := by
    intro m none secret revealed
    cases none.symm.trans (revealed_message.mp revealed)
  have nothing : ∀ secret, ¬ Revealed ([] : List (Output W.ContractInfo)) secret := by
    rintro secret ⟨_, listed, -⟩
    cases listed
  intro ch' signed'
  cases moved with
  | rests => exact (before ch' signed').tell nothing
  | refuses => exact (before ch' signed').tell (silent _ rfl)
  | settleOffered signed state next =>
      cases signed'
      have intact := before _ signed
      refine (intact.proceed (by rw [state]; rfl) (by rw [state]; rfl) rfl rfl ?_).tell (silent _ rfl)
      rintro point ⟨⟩
      exact SignedChannel.fresh_next distinct intact.bound next
  | settleReceived signed state =>
      cases signed'
      refine ((before _ signed).proceed (by rw [state]; rfl) (by rw [state]; rfl) rfl rfl ?_).tell nothing
      rintro point ⟨⟩
  | settleAccepted signed state next =>
      cases signed'
      have intact := before _ signed
      refine (intact.proceed (by rw [state]; rfl) (by rw [state]; rfl) rfl rfl ?_).tell (silent _ rfl)
      rintro point ⟨⟩
      exact SignedChannel.fresh_next distinct intact.bound next
  | settleConfirmed signed state revealed =>
      cases signed'
      have intact := before _ signed
      obtain ⟨seed, seeded, rfl⟩ := prevPerUpdateSecret_ok revealed
      refine ⟨intact.bound, fun _ => ?_, fun _ other => (by cases other), ?_, ?_⟩
      · exact intact.reveal (by rw [state]; rfl) rfl ⟨seed, seeded, rfl⟩
      · rintro point ⟨⟩
        exact intact.next _ (by rw [state]; rfl)
      · rintro s b ⟨⟩
  | settleFinalized signed state _ revealed _ _ positive =>
      cases signed'
      have intact := before _ signed
      obtain ⟨seed, seeded, rfl⟩ := prevPerUpdateSecret_ok revealed
      exact .advance intact.bound positive rfl rfl rfl
        (intact.reveal (by rw [state]; rfl) rfl ⟨seed, seeded, rfl⟩)
        (intact.next _ (by rw [state]; rfl))
  | settled signed state _ _ _ positive =>
      cases signed'
      have intact := before _ signed
      have revealed := intact.revealed (by rw [state]; rfl)
      rw [SignedChannel.revealedFrom, state] at revealed
      refine SignedChannel.Intact.tell ?_ nothing
      exact .advance intact.bound positive rfl rfl rfl revealed (intact.next _ (by rw [state]; rfl))
  | renewOffered signed state next =>
      cases signed'
      have intact := before _ signed
      refine (intact.proceed ?_ ?_ rfl rfl ?_).tell (silent _ rfl)
      · rcases state with ⟨s, state⟩ | ⟨s, state⟩ <;> rw [state] <;> rfl
      · rcases state with ⟨s, state⟩ | ⟨s, state⟩ <;> rw [state] <;> rfl
      · rintro point ⟨⟩
        exact SignedChannel.fresh_next distinct intact.bound next
  | renewReceived signed state =>
      cases signed'
      refine ((before _ signed).proceed ?_ ?_ rfl rfl ?_).tell nothing
      · rcases state with ⟨s, state⟩ | ⟨s, state⟩ <;> rw [state] <;> rfl
      · rcases state with ⟨s, state⟩ | ⟨s, state⟩ <;> rw [state] <;> rfl
      · rintro point ⟨⟩
  | renewAccepted signed state stored next =>
      cases signed'
      have intact := before _ signed
      refine (intact.proceed (by rw [state]; rfl) (by rw [state]; rfl) rfl rfl ?_).tell (silent _ rfl)
      rintro point ⟨⟩
      exact SignedChannel.fresh_next distinct intact.bound next
  | @renewConfirmed ch s _ _ _ _ _ _ _ _ _ signed state =>
      cases signed'
      have intact := before _ signed
      refine (intact.proceed (by rw [state]; rfl) (by rw [state]; rfl) rfl rfl ?_).tell (silent _ rfl)
      rintro point ⟨⟩
      by_cases own : s.isOffer = true
      · exact intact.next _ (by rw [state, SignedChannelState.ownNextPoint, if_pos own])
      · exact foreign _ s _ signed state rfl (by simpa using own)
  | renewFinalized signed state _ _ revealed =>
      cases signed'
      have intact := before _ signed
      obtain ⟨seed, seeded, rfl⟩ := prevPerUpdateSecret_ok revealed
      refine ⟨intact.bound, fun _ => ?_, fun _ _ => ?_, ?_, ?_⟩
      · exact intact.reveal (by rw [state]; rfl) rfl ⟨seed, seeded, rfl⟩
      · exact intact.next _ (by rw [state]; rfl)
      · rintro point ⟨⟩
      · rintro s b ⟨⟩
  | renewRevoked signed state _ revealed _ _ positive =>
      cases signed'
      have intact := before _ signed
      obtain ⟨seed, seeded, rfl⟩ := prevPerUpdateSecret_ok revealed
      exact .advance intact.bound positive rfl rfl rfl
        (intact.reveal (by rw [state]; rfl) rfl ⟨seed, seeded, rfl⟩)
        (intact.next _ (by rw [state]; rfl))
  | renewed signed state _ _ positive =>
      cases signed'
      have intact := before _ signed
      have revealed := intact.revealed (by rw [state]; rfl)
      have own := intact.own (by rw [state]; rfl) (by rw [state]; rfl)
      rw [SignedChannel.revealedFrom, state] at revealed own
      refine SignedChannel.Intact.tell ?_ nothing
      exact .advance intact.bound positive rfl rfl rfl revealed own
  | rollsBack signed state back answer =>
      cases signed'
      have rest := rollBack_atRest (rested _ signed)
        (by rcases state with ⟨s, state⟩ | ⟨s, state⟩ | ⟨s, state⟩ <;> rw [state] <;> rfl) back
      obtain ⟨b, kept, rfl⟩ := rollBack_ok back
      obtain ⟨quiet, stays, unchosen⟩ := SignedChannelState.atRest_quiet rest
      refine ((before _ signed).proceed ?_ ?_ stays quiet ?_).tell ?_
      · rcases state with ⟨s, state⟩ | ⟨s, state⟩ | ⟨s, state⟩ <;> rw [state] <;> rfl
      · rcases state with ⟨s, state⟩ | ⟨s, state⟩ | ⟨s, state⟩ <;> rw [state] <;> rfl
      · intro point chosen
        cases unchosen.symm.trans chosen
      · rcases answer with rfl | rfl
        · exact nothing
        · exact silent _ rfl
  | closeReceived signed =>
      cases signed'
      exact ((before _ signed).leave rfl rfl).tell nothing
  | closeOffered signed =>
      cases signed'
      exact ((before _ signed).leave rfl rfl).tell (silent _ rfl)
  | closeAccepted => cases signed'

/-- What has been sent is not of a revealed secret. -/
def SentUnrevealed (n : Node X E.toDescriptors) (log : List (Output M)) : Prop :=
  ∀ b ∈ n.sent, ∀ secret, Revealed log secret → b.point? ≠ some (X.publicKey secret)

theorem sentUnrevealed_append {b : Sent} (before : n.SentUnrevealed log)
    (unrevealed : ∀ secret, Revealed log secret → b.point? ≠ some (X.publicKey secret)) :
    ∀ b' ∈ n.sent ++ [b], ∀ secret, Revealed log secret → b'.point? ≠ some (X.publicKey secret) := by
  intro b' among
  rcases List.mem_append.mp among with old | new
  · exact before b' old
  · rw [List.mem_singleton.mp new]
    exact unrevealed

/-- Closing alone, unless in the state that has revealed the one to go back to. -/
theorem ClosesWith.unrevealed {ch₀ : SignedChannel X} {b : Sent} (intact : ch.Intact signer log)
    (allowed : ch.state.settling = false) (start : ClosesFrom X ch ch₀)
    (closes : ClosesWith X signer ch₀ b) {secret : SecretKey} (revealed : Revealed log secret) :
    b.point? ≠ some (X.publicKey secret) := by
  have same : b.point? = some ch₀.ownPerUpdatePoint ∧ ch₀.state.closable = true := by
    cases closes with
    | established state | renewFinalized state | settled state =>
        exact ⟨rfl, by rw [state]; rfl⟩
  rw [same.1, ne_eq, Option.some.injEq]
  cases start with
  | rest => exact intact.unrevealed (SignedChannelState.closable_open same.2).1 allowed revealed
  | before update back =>
      obtain ⟨state, kept, rfl⟩ := rollBack_ok back
      by_cases leaves : ch.state.leaving = true
      · cases left : ch.state <;> rw [left] at leaves update <;> try cases leaves
        · cases update
        · exact intact.back _ state left kept same.2 secret revealed
      · exact intact.unrevealed (by simpa using leaves) allowed revealed

theorem Ticks.intact (tick : Ticks X signer env may n n')
    (allowed : ∀ ch, may ch → ch.state.settling = false) (before : n.Intact signer log)
    (sent : n.SentUnrevealed log) : n'.Intact signer log ∧ n'.SentUnrevealed log := by
  cases tick with
  | sendsCet | sendsPunishment =>
      exact ⟨before, sentUnrevealed_append sent fun _ _ => by simp [Sent.point?]⟩
  | attempts signed may start closes =>
      exact ⟨before, sentUnrevealed_append sent fun _ revealed =>
        closes.unrevealed (before _ signed) (allowed _ may) start revealed⟩
  | closing signed may start =>
      refine ⟨?_, sent⟩
      rintro ch' ⟨⟩
      have bound := (before _ signed).bound
      refine ⟨?_, fun stays => (by cases stays), fun stays => (by cases stays), ?_, ?_⟩
      · cases start with
        | rest => exact bound
        | before _ back =>
            obtain ⟨_, -, rfl⟩ := rollBack_ok back
            exact bound
      · rintro point ⟨⟩
      · rintro s b ⟨⟩
  | bufferSeen signed =>
      refine ⟨?_, sent⟩
      rintro ch' ⟨⟩
      exact (before _ signed).leave rfl rfl
  | settledClosed | finalized | cetSeen =>
      exact ⟨fun ch' signed' => absurd signed' (closedRecord_unsigned ch'), sent⟩
  | punished | collaborative | settleSeen =>
      refine ⟨?_, sent⟩
      rintro ch' ⟨⟩
  | cleans | persists => exact ⟨before, sent⟩

theorem Evolves.intact (evolved : Evolves X signer env may n n')
    (allowed : ∀ ch, may ch → ch.state.settling = false) (before : n.Intact signer log)
    (sent : n.SentUnrevealed log) : n'.Intact signer log ∧ n'.SentUnrevealed log := by
  induction evolved with
  | refl => exact ⟨before, sent⟩
  | tail _ tick ih => exact tick.intact allowed ih.1 ih.2

end Node

namespace Turn
variable (signer : Signer) (turn : Turn E.toDescriptors A W.ContractInfo)
  (h : History X E.toDescriptors W.ContractInfo)

/-- No force close goes back from a settlement whose secret has been revealed, and no own
offer that the counterparty accepts itself names an own point that is or will be revealed. -/
structure KeepsSecrets : Prop where
  forceClose : ∀ ch, h.node.channel = .signed ch → turn.ForceCloses ch → ch.state.settling = false
  renewal : ∀ peer m ch s, turn.event = .message peer (.renewAccept m) →
    h.node.channel = .signed ch → ch.state = .renewOffered s → s.isOffer = false →
    ch.Fresh signer ch.updateIdx s.offerNextPerUpdatePoint

end Turn

namespace History
variable {h h' : History X E.toDescriptors W.ContractInfo}

theorem neverRevoked_append {log : List (Output M)} {sent : List Sent} {out : Option (DlcMessage M)}
    (before : NeverRevoked X log)
    (unrevealed : ∀ b ∈ sent, ∀ secret, Revealed log secret → b.point? ≠ some (X.publicKey secret)) :
    NeverRevoked X (log ++ sent.map .broadcast ++ out.toList.map .message) := by
  refine List.pairwise_append.mpr ⟨List.pairwise_append.mpr ⟨before, ?_, ?_⟩, ?_, ?_⟩
  · refine List.pairwise_map.mpr (List.pairwise_of_forall fun a b => ?_)
    rintro ⟨m, _, _, other, -⟩
    cases other
  · rintro revealed listed _ among ⟨m, secret, b, rfl, said, rfl, point⟩
    obtain ⟨b', sent, same⟩ := List.mem_map.mp among
    cases same
    exact unrevealed b sent secret ⟨m, listed, said⟩ point
  · refine List.pairwise_map.mpr (List.pairwise_of_forall fun a b => ?_)
    rintro ⟨_, _, _, -, -, other, -⟩
    cases other
  · rintro _ - _ among ⟨_, _, _, -, -, other, -⟩
    obtain ⟨m, -, same⟩ := List.mem_map.mp among
    cases same.trans other

theorem Step.intact {turn : Turn E.toDescriptors A W.ContractInfo} (distinct : DistinctPoints X)
    (step : Step X signer W h turn h') (keeps : turn.KeepsSecrets signer h)
    (rested : h.node.Rested) (intact : h.node.Intact signer h.log) (never : NeverRevoked X h.log) :
    h'.node.Intact signer h'.log ∧ NeverRevoked X h'.log := by
  obtain ⟨out, n, said, turned, rfl⟩ := step.turns keeps.forceClose
  have quiet : Node.SentUnrevealed (X := X) { h.node with sent := [] } h.log := by simp [Node.SentUnrevealed]
  have both : n.Intact signer (h.log ++ out.toList.map .message) ∧ n.SentUnrevealed h.log := by
    cases turned with
    | moves moved =>
        refine ⟨moved.intact distinct rested intact ?_, ?_⟩
        · rintro ch s msg signed state rfl own
          obtain ⟨peer, m, received⟩ := answers_event said
          exact keeps.renewal peer m ch s received signed state own
        · intro b among secret _
          rcases moved.sent b among with old | ⟨tx, rfl⟩
          · cases old
          · simp [Sent.point?]
    | fails same =>
        refine ⟨fun ch signed => ?_, ?_⟩
        · simpa using intact ch (same.channel ▸ signed)
        · obtain ⟨closes, sent, only⟩ := same.sent
          intro b among secret _
          rw [sent, List.nil_append] at among
          obtain ⟨tx, rfl⟩ := only b among
          simp [Sent.point?]
    | evolves evolved =>
        obtain ⟨intact', sent⟩ := evolved.intact (fun _ settled => settled) intact quiet
        exact ⟨by simpa using intact', sent⟩
    | follows | restarts =>
        exact ⟨fun ch signed => by simpa using intact ch signed, quiet⟩
  refine ⟨fun ch signed => (both.1 ch signed).less fun secret revealed => ?_,
    neverRevoked_append never both.2⟩
  rw [revealed_append, revealed_append] at revealed
  rcases revealed with (old | sent) | new
  · exact revealed_append.mpr (.inl old)
  · exact absurd sent revealed_broadcasts
  · exact revealed_append.mpr (.inr new)

/-- A node that never goes back from a state whose secret it has revealed never broadcasts
a transaction of a revealed secret. -/
theorem never_broadcasts_revoked (distinct : DistinctPoints X)
    {turns : List (Turn E.toDescriptors A W.ContractInfo)} (fresh : h.log = [])
    (rest : ∀ ch, h.node.channel = .signed ch → ch.state.atRest = true ∧ ch.updateIdx < 2 ^ 48 ∧
      ∃ secret, ch.OwnSecret signer ch.updateIdx secret ∧ ch.ownPerUpdatePoint = X.publicKey secret)
    (run : Run (guarded (Step X signer W) fun h turn => turn.KeepsSecrets signer h) h turns h') :
    NeverRevoked X h'.log := by
  have start : h.node.Intact signer h.log := by
    intro ch signed
    obtain ⟨atRest, bound, _, ⟨seed, seeded, rfl⟩, own⟩ := rest ch signed
    obtain ⟨quiet, -, unchosen⟩ := SignedChannelState.atRest_quiet atRest
    have from_ : ch.revealedFrom = ch.updateIdx + 1 := by
      rw [SignedChannel.revealedFrom, quiet]
      rfl
    refine ⟨bound, fun _ secret => ?_, fun _ _ => ?_, fun point chosen => ?_, fun s b state => ?_⟩
    · rintro ⟨_, listed, -⟩
      rw [fresh] at listed
      cases listed
    · rw [from_, own]
      exact SignedChannel.fresh_of_point distinct seeded bound (Nat.lt_succ_self _)
    · cases unchosen.symm.trans chosen
    · rw [state] at atRest
      cases atRest
  have along := run.invariant
    (fun h => h.node.Rested ∧ h.node.Intact signer h.log ∧ NeverRevoked X h.log)
    ⟨fun ch signed => Node.rested_of_atRest (rest ch signed).1, start, by rw [fresh]; exact .nil⟩
    fun h turn h' before step => ⟨step.2.rested before.1,
      step.2.intact distinct step.1 before.1 before.2.1 before.2.2⟩
  exact along.2.2

end History

end Runs

/-- The first party after the second has accepted its settlement: the secret is out. -/
def sampleSettling : SampleHistory := sampleHears 1 (sampleMessages sampleAccepted 0) sampleOffered

def sampleForced : SampleHistory := sampleNext 1 (.call 77 .forceCloseChannel) sampleSettling

/-- The broadcast at one place of a log is of the secret at an earlier one. -/
def revokedAt (log : List (Output sampleWire.ContractInfo)) (i j : ℕ) : Bool :=
  match log[i]?, log[j]? with
  | some (.message m), some (.broadcast b) =>
      m.secret?.isSome && b.point? = m.secret?.map sampleChannelCrypto.publicKey
  | _, _ => false

theorem not_neverRevoked {log : List (Output sampleWire.ContractInfo)} {i j : ℕ} (later : i < j)
    (revoked : revokedAt log i j = true) : ¬ NeverRevoked sampleChannelCrypto log := by
  intro never
  unfold revokedAt at revoked
  split at revoked
  next m b first second =>
    rw [Bool.and_eq_true, decide_eq_true_eq] at revoked
    obtain ⟨secret, said⟩ := Option.isSome_iff_exists.mp revoked.1
    obtain ⟨hi, first⟩ := List.getElem?_eq_some_iff.mp first
    obtain ⟨hj, second⟩ := List.getElem?_eq_some_iff.mp second
    refine List.pairwise_iff_getElem.mp never i j hi hj later
      ⟨m, secret, b, first, said, second, ?_⟩
    rw [revoked.2, said]
    rfl
  next => cases revoked

/-- A force close after the counterparty has accepted a settlement goes back to the buffer
transaction whose secret the confirmation has just revealed. -/
theorem force_close_broadcasts_revoked :
    (∃ turns, SampleRun 1 turns sampleForced) ∧ ¬ NeverRevoked sampleChannelCrypto sampleForced.log := by
  have offered : ∃ turns, SampleRun 1 turns sampleOffered := ⟨_, Run.nil.snoc rfl⟩
  obtain ⟨turns, settling⟩ := sampleHears_run (sampleMessages sampleAccepted 0) offered
  have revoked : revokedAt sampleForced.log 1 2 = true := by decide +kernel
  exact ⟨⟨_, settling.snoc (a := sampleTurn (.call 77 .forceCloseChannel)) rfl⟩,
    not_neverRevoked (by decide) revoked⟩

theorem sampleChannelCrypto_distinct : DistinctPoints sampleChannelCrypto := by
  intro seed i j hi hj same
  have codes := congrArg (fun k : PublicKey => k.code.val) same
  have residues : 2 ^ 64 * seed.val + i + 1 ≡ 2 ^ 64 * seed.val + j + 1 [MOD 2 ^ 256] := codes
  have indices : i ≡ j [MOD 2 ^ 256] := (residues.add_right_cancel' 1).add_left_cancel' _
  have room : 2 ^ 48 < 2 ^ 256 := Nat.pow_lt_pow_right (by decide) (by decide)
  exact indices.eq_of_lt_of_lt (hi.trans room) (hj.trans room)

def offeredSettles : Bool :=
  match sampleOffered.node.channel with
  | .signed ch => ch.state.settling
  | _ => false

/-- A force close while the own offer of a settlement is pending. -/
theorem force_close_offered_unrevoked :
    NeverRevoked sampleChannelCrypto (sampleNext 1 (.call 77 .forceCloseChannel) sampleOffered).log := by
  have offering : offeredSettles = false := by decide +kernel
  refine History.never_broadcasts_revoked sampleChannelCrypto_distinct rfl ?_
    ((Run.nil.snoc (a := sampleTurn (.call 77 (.settleOffer 60000000))) ⟨⟨?_, ?_⟩, rfl⟩).snoc
      (a := sampleTurn (.call 77 .forceCloseChannel)) ⟨⟨?_, ?_⟩, rfl⟩)
  · rintro ch ⟨⟩
    exact ⟨rfl, by decide, perUpdateSecret 1 initialUpdateIdx, ⟨partySecret 1 5, rfl, rfl⟩, rfl⟩
  · rintro ch signed -
    change sampleOffered.node.channel = .signed ch at signed
    rw [offeredSettles, signed] at offering
    exact offering
  · rintro peer m ch s other
    cases other
  · rintro ch signed (⟨_, other⟩ | ⟨other, -⟩) <;> cases other
  · rintro peer m ch s other
    cases other

end P2PLending.Manager.Channels
