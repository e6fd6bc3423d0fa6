import AqlClient.Batch
import AqlClient.Gateway.Exchange
import AqlClient.Info
import AqlClient.Proofs.Judgement

/-!
# What is wrong with an answer

Reading an answer ends with a value, or with a failure that tells of the answer (`Readable`): the
server refuses the request, or something about the answer is not as it has to be. There is one lemma
for each reader, and one for each way of putting readers together.

Two readers look into a value before they know what it is, and may fail with a value that is of the
wrong type: the one that takes information on a collection from an item of a list, which need not be
an object as it is here (`CollectionInfo.readable_ofValue`), and the one that goes through the
warnings of a query (`Info.warnings`).
-/

namespace AqlClient

variable {α β : Type}

/-- The failures that tell of an answer: it is a refusal, or it is malformed. -/
def Failure.isAnswer : Failure → Bool
  | .server _ | .malformed _ => true
  | _ => false

/-- What tells of an answer the client reports. -/
theorem Failure.isClientError_of_isAnswer {e : Failure} (h : e.isAnswer = true) :
    e.isClientError = true := by
  cases e with
  | server e => rfl
  | malformed e => rfl
  | _ => cases h

/-- **What comes of reading an answer:** a value, or a failure that tells of the answer. -/
def Readable (r : Except Failure α) : Prop := ∀ e, r = .error e → e.isAnswer = true

namespace Readable

theorem ok (a : α) : Readable (.ok a : Except Failure α) := by
  intro e he
  cases he

theorem malformed (e : Malformed) : Readable (.error (.malformed e) : Except Failure α) := by
  rintro _ ⟨⟩
  rfl

theorem ofError {e : Failure} (h : Readable (.error e : Except Failure α)) :
    Readable (.error e : Except Failure β) := by
  rintro _ ⟨⟩
  exact h e rfl

theorem bind {x : Except Failure α} {f : α → Except Failure β} (hx : Readable x)
    (hf : ∀ a, x = .ok a → Readable (f a)) : Readable (x >>= f) := by
  cases x with
  | error e => exact hx.ofError
  | ok a => exact hf a rfl

end Readable

/-- What cannot be written is malformed. -/
theorem Value.readable_encodePayload (payload : Value) : Readable payload.encodePayload := by
  unfold encodePayload
  split
  · exact .ok none
  · split
    · exact .ok _
    · exact .malformed _

/-! ### Envelopes -/

namespace Entries

variable (entries : Entries) (name : String) (kinds : List Kind) (view : Value → Option α)

theorem readable_optional : Readable (entries.optional name kinds view) := by
  unfold optional
  split
  · exact .ok none
  · split
    · exact .ok _
    · exact .malformed _

theorem readable_required : Readable (entries.required name kinds view) := by
  have hoptional := readable_optional entries name kinds view
  unfold required
  split
  · exact .ok _
  · exact .malformed _
  case h_3 e he =>
    rw [he] at hoptional
    exact hoptional.ofError

end Entries

/-- **Whatever a response is like,** its envelope is read, or the failure tells of it. -/
theorem Envelope.readable_read (r : Response) (request : Option String) :
    Readable (read r request) := by
  intro e he
  obtain ⟨_, rfl⟩ | ⟨_, rfl⟩ := read_error he
  · rfl
  · rfl

/-- The batch in an envelope, or what is wrong with it. -/
theorem Batch.readable_ofEnvelope (envelope : Entries) : Readable (ofEnvelope envelope) := by
  unfold ofEnvelope
  refine .bind (envelope.readable_required _ _ _) fun results _ => ?_
  refine .bind (envelope.readable_required _ _ _) fun more _ => ?_
  refine .bind (envelope.readable_optional _ _ _) fun id _ => ?_
  dsimp only
  split
  · exact .malformed _
  · refine .bind (envelope.readable_optional _ _ _) fun count _ => ?_
    refine .bind (envelope.readable_optional _ _ _) fun extra _ => ?_
    exact .bind (envelope.readable_optional _ _ _) fun cached _ => .ok _

/-! ### Information -/

/-- A name that has to be there is looked for in an object. -/
theorem Info.readable_requiredField (subject name : String) (entries : Entries) :
    Readable (requiredField subject name (.dict entries)) := by
  unfold requiredField
  dsimp only
  split
  · exact .ok _
  · exact .malformed _

theorem Value.readable_members (entries : Entries) : Readable (Value.dict entries).members := .ok _

theorem ServerVersion.readable_ofValue (entries : Entries) :
    Readable (ServerVersion.ofValue (.dict entries)) := by
  unfold ofValue
  refine .bind (Info.readable_requiredField _ _ entries) fun _ _ => ?_
  refine .bind (Info.readable_requiredField _ _ entries) fun _ _ => ?_
  exact .bind (Value.readable_members entries) fun _ _ => .ok _

theorem DatabaseInfo.readable_ofValue (entries : Entries) :
    Readable (DatabaseInfo.ofValue (.dict entries)) := by
  unfold ofValue
  refine .bind (Info.readable_requiredField _ _ entries) fun _ _ => ?_
  refine .bind (Info.readable_requiredField _ _ entries) fun _ _ => ?_
  exact .bind (Value.readable_members entries) fun _ _ => .ok _

theorem CollectionInfo.readable_ofValue (entries : Entries) :
    Readable (CollectionInfo.ofValue (.dict entries)) := by
  unfold ofValue
  refine .bind (Info.readable_requiredField _ _ entries) fun _ _ => ?_
  refine .bind (Info.readable_requiredField _ _ entries) fun _ _ => ?_
  refine .bind (Info.readable_requiredField _ _ entries) fun _ _ => ?_
  exact .bind (Value.readable_members entries) fun _ _ => .ok _

end AqlClient
