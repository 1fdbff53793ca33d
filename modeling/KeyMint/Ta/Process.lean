import KeyMint.Ta.Dispatch

/-!
# Serialized requests

The host reaches the TA only through `process`, once per serialized request.  `process` decodes
the request, hands it to `process_req`, and encodes the response; a request that does not decode
is answered with an error, a response that does not encode is replaced by a fixed one, and a
request on which the TA panics gets no response.  This
module connects the byte level to the message level that `Run` and `Reachable` describe.

- `process_snd`: one frame takes the TA where its request takes it, or nowhere if it does not
  decode.
- `processFrames_refines`: **a sequence of frames takes the TA exactly where the sequence of the
  requests that decoded takes it, whether or not the responses encode**, so every state reached
  through `process` is reached by a `Run`, and every invariant of `Run` and `Reachable` holds at
  the byte level.
-/

namespace KeyMint

variable (env : Env)

/-- A sequence of serialized requests handed to `process`, each at its clock reading: the TA
afterwards. -/
def processFrames (st : KeyMintTa) : List (Timestamp × Bytes) → KeyMintTa
  | [] => st
  | (now, reqData) :: frames => processFrames (process env now st reqData).2 frames

/-- A sequence of requests handed to `process_req`, each at its clock reading: the TA
afterwards. -/
def processReqs (st : KeyMintTa) : List (Timestamp × PerformOpReq) → KeyMintTa
  | [] => st
  | (now, req) :: reqs => processReqs (processReq env now st req).2 reqs

/-- The requests of the frames that decode, each with its frame's clock reading. -/
def decodedReqs (frames : List (Timestamp × Bytes)) : List (Timestamp × PerformOpReq) :=
  frames.filterMap fun f => (fromSlice env.wire.serializer env.reqCodec f.2).toOption.map (f.1, ·)

variable {env}

/-- One frame: the TA that `process_req` leaves for a request that decodes, whatever happens to
the encoding of its response, and the TA unchanged for one that does not. -/
theorem process_snd (now : Timestamp) (st : KeyMintTa) (reqData : Bytes) :
    (process env now st reqData).2 =
      match fromSlice env.wire.serializer env.reqCodec reqData with
      | .ok req => (processReq env now st req).2
      | .error _ => st := by
  unfold process
  cases fromSlice env.wire.serializer env.reqCodec reqData <;> rfl

theorem Run.processReqs (st : KeyMintTa) (reqs : List (Timestamp × PerformOpReq)) :
    Run env AnyStep st (processReqs env st reqs) := by
  induction reqs generalizing st with
  | nil => exact .refl st
  | cons r reqs ih => exact .step r.1 r.2 trivial (ih _)

/-- **The byte level refines the message level.**  Every sequence of serialized requests takes the
TA to the state that `process_req` reaches on the requests among them that decode, in order, and
so along a `Run`: the frames that do not decode, and the responses that do not encode, change
nothing. -/
theorem processFrames_refines (st : KeyMintTa) (frames : List (Timestamp × Bytes)) :
    processFrames env st frames = processReqs env st (decodedReqs env frames) ∧
      Run env AnyStep st (processFrames env st frames) := by
  have heq : processFrames env st frames = processReqs env st (decodedReqs env frames) := by
    induction frames generalizing st with
    | nil => rfl
    | cons f frames ih =>
      obtain ⟨now, reqData⟩ := f
      rcases hdec : fromSlice env.wire.serializer env.reqCodec reqData with e | req <;>
        simp only [processFrames, decodedReqs, List.filterMap_cons, process_snd, hdec,
          Except.toOption, Option.map_none', Option.map_some', processReqs] <;>
        exact ih _
  exact ⟨heq, heq ▸ Run.processReqs st _⟩

end KeyMint
