import DirectTransfer.Core.StoredDelivery

/-! Partials with octets that are not the sender's, over two sessions of an honest sender:
what the first one leaves, whatever it comes to, and whether the second one delivers. -/

set_option autoImplicit false

namespace DirectTransfer

open Library

/-- A session that has told its sender that the transfer is complete, over a receive
directory with every file of its offer. -/
def TransferConfirmed (host : StoreHost) (offer : TransferOffer) (state : StoredReceiver) : Prop :=
  ∃ stored ∈ state.sessions, stored.session.origin.offer = offer ∧
    stored.session.phase = .sessionComplete ∧
    ∀ file ∈ offer.files, ∃ path, Arrived host state.disk file path

/-- A step that begins a session. -/
def StoredLabel.accepts : StoredLabel → Bool
  | .accept _ _ _ => true
  | _ => false

section

variable (host : StoreHost) (platform : Platform) (offer : TransferOffer)
  (source : IncomingFile → Bytes)

/-- The steps of a receiver that is made one offer, by a sender that sends its files. -/
def Sincere (state : StoredReceiver) (label : StoredLabel) : Prop :=
  Attends platform (· = offer) state label ∧ FromSource offer source state label

/-- Whatever the first session of the sender comes to and wherever it is cut, the next one
delivers, in a new process, if it is not cut itself. -/
def SecondDelivers (peerIp peerDeviceId : PyStr) (start : StoredReceiver) : Prop :=
  ∀ labels middle, Run (storedStep host platform) (Sincere platform offer source) start labels middle →
    labels.countP StoredLabel.accepts = 1 → Attends platform (· = offer) middle .restart →
    ∃ payload rest confirmed closing finish,
      Run (storedStep host platform) (fun state label => Sincere platform offer source state label ∧
          KeepsTo offer source state label) middle
        (.restart :: .accept peerIp peerDeviceId payload :: rest) confirmed ∧
      TransferConfirmed host offer confirmed ∧
      Run (storedStep host platform) (fun state label => Sincere platform offer source state label ∧
          KeepsTo offer source state label) confirmed closing finish ∧
      (rest ++ closing).countP StoredLabel.accepts = 0 ∧
      ∃ stored, finish.sessions = [stored] ∧ stored.session.phase = .ended (.ok ()) ∧
        ∀ file ∈ offer.files, ∃ path, Arrived host finish.disk file path

/-- At most two sessions of the sender, in whatever way they go, can deliver. -/
def DeliversByTwo (start : StoredReceiver) : Prop :=
  ∃ labels finish, Run (storedStep host platform) (Sincere platform offer source) start labels finish ∧
    labels.countP StoredLabel.accepts ≤ 2 ∧ TransferConfirmed host offer finish

end

section

variable {host : StoreHost} {platform : Platform} {offer : TransferOffer}
  {source : IncomingFile → Bytes} {disk : Disk FilePath} {first : IncomingFile → Option FilePath}
  {labels : List StoredLabel} {finish : StoredReceiver} {file : IncomingFile} {payload : Json}
  {peerIp peerDeviceId : PyStr}

/-- The shortest first session: its offer is accepted, and nothing follows. -/
theorem first_session (valid : validateOffer platform payload = .ok offer) :
    Run (storedStep host platform) (Sincere platform offer source) ⟨.empty, disk, []⟩
      [.accept peerIp peerDeviceId payload]
      (beside [] .empty disk ⟨accepted peerIp peerDeviceId offer, none, none⟩) :=
  .single ⟨attends_accept valid rfl fun _ member => absurd member List.not_mem_nil, trivial⟩
    (step_accepts valid)

/-- If the second session delivers, a run of two sessions does. -/
theorem SecondDelivers.run (valid : validateOffer platform payload = .ok offer)
    (second : SecondDelivers host platform offer source peerIp peerDeviceId ⟨.empty, disk, []⟩) :
    DeliversByTwo host platform offer source ⟨.empty, disk, []⟩ := by
  have attends : Attends platform (· = offer)
      (beside [] .empty disk ⟨accepted peerIp peerDeviceId offer, none, none⟩) .restart := by
    intro stored member call name began
    cases List.mem_singleton.mp member
    cases began
  obtain ⟨frame, rest, confirmed, closing, _, run, delivered, _, quiet, _⟩ :=
    second _ _ (first_session valid) rfl attends
  refine ⟨_, confirmed, (first_session valid).trans
    (run.weaken fun _ _ admitted => admitted.1), ?_, delivered⟩
  have counts : ([StoredLabel.accept peerIp peerDeviceId payload] ++
      StoredLabel.restart :: StoredLabel.accept peerIp peerDeviceId frame :: rest).countP
        StoredLabel.accepts = rest.countP StoredLabel.accepts + 2 := by
    simp [List.countP_cons, StoredLabel.accepts]
  rw [List.countP_append] at quiet
  omega

end

/-! ## Two files -/

open StoreHost

end DirectTransfer
