import PromptDispatch.Gateway.Basic
import PromptDispatch.Proofs.Dispatch.Agreement
import PromptDispatch.Proofs.Dispatch.Cancellation
import PromptDispatch.Proofs.Dispatch.Copying

/-!
# The answers to requests

A request asks to dispatch a prompt when it gets to the endpoint of prompts and brings a
proper form, and it reads an endpoint when it gets to one of those that tell something of
the session.  Every other request is refused, or it is answered before it gets to any
endpoint.  Only a prompt that is asked for and let in changes what the session holds; one
that is asked for and turned away is noted in the journal, and nothing else happens.

This is so where the machine can copy all entries and whatever agents save.
-/

namespace PromptDispatch

namespace Field

theorem textWithin_str (least most : Nat) (text : String) :
    textWithin least most (.str text) =
      if text.length < least then .error (.tooShort least)
      else if most < text.length then .error (.tooLong most)
      else .ok text := by
  simp only [textWithin, textFrom, Field.text, bind, Except.bind, pure, Except.pure, throw,
    throwThe, MonadExceptOf.throw]
  by_cases short : text.length < least
  · rw [if_pos short, if_pos short]
  · rw [if_neg short, if_neg short]

theorem textWithin_eq_ok_iff {least most : Nat} {v : Json} {text : String} :
    textWithin least most v = .ok text ↔
      v = .str text ∧ least ≤ text.length ∧ text.length ≤ most := by
  cases v with
  | str s =>
      rw [textWithin_str]
      constructor
      · intro read
        split at read
        · cases read
        · split at read
          · cases read
          · next long short =>
            obtain rfl : s = text := Except.ok.inj read
            exact ⟨rfl, Nat.not_lt.mp long, Nat.not_lt.mp short⟩
      · rintro ⟨same, long, short⟩
        obtain rfl : s = text := Json.str.inj same
        rw [if_neg (Nat.not_lt.mpr long), if_neg (Nat.not_lt.mpr short)]
  | _ =>
      constructor
      · intro read
        cases read
      · rintro ⟨same, -⟩
        cases same

end Field

namespace Gateway

/-! ## What is asked -/

theorem PromptRequest.ofFields_eq_ok_iff {fields : List (String × Json)} {form : PromptRequest} :
    PromptRequest.ofFields fields = .ok form ↔
      Keyed.get? "prompt" fields = some (.str form.prompt) ∧ 1 ≤ form.prompt.length ∧
        form.prompt.length ≤ longestPrompt := by
  rw [PromptRequest.ofFields, Field.required]
  cases Keyed.get? "prompt" fields with
  | none => simp [Field.form]
  | some v =>
      have within : Field.textWithin 1 longestPrompt v = .ok form.prompt ↔
          v = .str form.prompt ∧ 1 ≤ form.prompt.length ∧ form.prompt.length ≤ longestPrompt :=
        Field.textWithin_eq_ok_iff
      rw [Option.some.injEq, ← within]
      dsimp only
      cases Field.textWithin 1 longestPrompt v with
      | error cause => simp [Field.form]
      | ok text =>
          rcases form with ⟨prompt⟩
          simp [Field.form]

theorem Request.value_eq_obj_iff {machine : Machine} {request : Request}
    {fields : List (String × Json)} :
    request.value machine = .ok (.obj fields) ↔
      announcesJson request.contentType = true ∧ request.readFault? machine = none ∧
        Json.readWire request.body = .ok (.obj fields) := by
  rw [Request.value]
  by_cases empty : request.body = ""
  · have unread : Json.readWire "" = .error (.refused .expectingValue 0) := by rfl
    simp [empty, unread]
  · rw [if_neg empty]
    by_cases announced : announcesJson request.contentType = true
    · rw [if_pos announced]
      cases request.readFault? machine with
      | some fault => simp
      | none =>
          cases Json.readWire request.body with
          | ok v => simp [announced]
          | error fault => cases fault <;> simp
    · rw [if_neg announced]
      simp [announced]

/-- A request brings the form for a prompt: its body is announced as JSON, is no deeper
than a machine reads, and is an object that holds the prompt, a text of a proper length. -/
structure Request.Brings (machine : Machine) (request : Request) (prompt : String) : Prop where
  announced : announcesJson request.contentType = true
  shallow : request.readFault? machine = none
  body : ∃ fields, Json.readWire request.body = .ok (.obj fields) ∧
    Keyed.get? "prompt" fields = some (.str prompt)
  nonempty : 1 ≤ prompt.length
  within : prompt.length ≤ longestPrompt

theorem Request.prompt_eq_ok_iff {machine : Machine} {request : Request} {form : PromptRequest} :
    request.prompt machine = .ok form ↔
      ∃ fields, request.value machine = .ok (.obj fields) ∧
        PromptRequest.ofFields fields = .ok form := by
  rw [Request.prompt]
  cases request.value machine with
  | error fault => simp
  | ok v =>
      cases v with
      | obj fields =>
          cases formed : PromptRequest.ofFields fields <;> simp [Except.mapError, formed]
      | _ => simp

theorem Request.brings_iff {machine : Machine} {request : Request} {prompt : String} :
    request.Brings machine prompt ↔ request.prompt machine = .ok ⟨prompt⟩ := by
  rw [Request.prompt_eq_ok_iff]
  constructor
  · rintro ⟨announced, shallow, ⟨fields, read, held⟩, nonempty, within⟩
    exact ⟨fields, Request.value_eq_obj_iff.mpr ⟨announced, shallow, read⟩,
      PromptRequest.ofFields_eq_ok_iff.mpr ⟨held, nonempty, within⟩⟩
  · rintro ⟨fields, value, formed⟩
    obtain ⟨announced, shallow, read⟩ := Request.value_eq_obj_iff.mp value
    obtain ⟨held, nonempty, within⟩ := PromptRequest.ofFields_eq_ok_iff.mp formed
    exact ⟨announced, shallow, ⟨fields, read, held⟩, nonempty, within⟩

/-- What is relied on of the front: a request for the very path of an endpoint with its
method gets to it, and no response before that is the one to a prompt that comes too
early. -/
structure Front.Reliable (front : Front) : Prop where
  reaches : ∀ request endpoint, request.path = endpoint.path → request.method = endpoint.method →
    front request = .ok endpoint
  unthrottled : ∀ request response, front request = .error response → response.status ≠ 429

section

variable {machine : Machine} {front : Front} {request : Request}

/-- A request asks to dispatch a prompt: it gets to the endpoint of prompts and brings the
form. -/
structure Request.Asks (machine : Machine) (front : Front) (request : Request)
    (prompt : String) : Prop where
  reaches : front request = .ok .prompt
  brings : request.Brings machine prompt

/-- Posting a proper form to the path of prompts asks to dispatch its prompt. -/
theorem Front.Reliable.asks (reliable : front.Reliable) {prompt : String}
    (path : request.path = "/prompt") (method : request.method = "POST")
    (brings : request.Brings machine prompt) : request.Asks machine front prompt :=
  ⟨reliable.reaches request .prompt path method, brings⟩

/-- The prompt that a request asks to dispatch. -/
def Request.asked? (machine : Machine) (front : Front) (request : Request) : Option String :=
  match front request with
  | .ok .prompt => (request.prompt machine).toOption.map (·.prompt)
  | _ => none

theorem Request.asks_iff {prompt : String} :
    request.Asks machine front prompt ↔ request.asked? machine front = some prompt := by
  have asks_iff : request.Asks machine front prompt ↔
      front request = .ok .prompt ∧ request.prompt machine = .ok ⟨prompt⟩ := by
    rw [← Request.brings_iff]
    exact ⟨fun asks => ⟨asks.reaches, asks.brings⟩, fun asks => ⟨asks.1, asks.2⟩⟩
  rw [asks_iff, Request.asked?]
  cases front request with
  | error response => simp
  | ok endpoint =>
      cases endpoint with
      | prompt =>
          cases request.prompt machine with
          | error fault => simp [Except.toOption]
          | ok form =>
              rcases form with ⟨text⟩
              simp [Except.toOption]
      | _ => simp

/-- What an endpoint that can be read tells of a session. -/
def Endpoint.view? : Endpoint → Option (Session → Json)
  | .prompt => none
  | .agents => some agentList
  | .history => some promptList
  | .health => some Gateway.health

/-- A request reads an endpoint. -/
structure Request.Reads (front : Front) (request : Request) (endpoint : Endpoint)
    (view : Session → Json) : Prop where
  reaches : front request = .ok endpoint
  tells : endpoint.view? = some view

/-- A request does not ask for two prompts. -/
theorem Request.Asks.unique {prompt other : String} (asks : request.Asks machine front prompt)
    (asksOther : request.Asks machine front other) : prompt = other :=
  Option.some.inj ((Request.asks_iff.mp asks).symm.trans (Request.asks_iff.mp asksOther))

/-- A request that asks for a prompt reads nothing. -/
theorem Request.Asks.not_reads {prompt : String} (asks : request.Asks machine front prompt)
    (endpoint : Endpoint) (view : Session → Json) : ¬ request.Reads front endpoint view := by
  intro reads
  obtain rfl := Except.ok.inj (reads.reaches.symm.trans asks.reaches)
  cases reads.tells

/-- A request reads one endpoint at most. -/
theorem Request.Reads.unique {endpoint other : Endpoint} {view otherView : Session → Json}
    (reads : request.Reads front endpoint view) (readsOther : request.Reads front other otherView) :
    view = otherView := by
  obtain rfl := Except.ok.inj (reads.reaches.symm.trans readsOther.reaches)
  exact Option.some.inj (reads.tells.symm.trans readsOther.tells)

end

/-! ## What is answered -/

/-- All that can come of a request: the session that is left, and the response. -/
inductive Answers (machine : Machine) (front : Front) (d : Dispatcher) (request : Request)
    (here : Session) : Session → Response → Prop where
  /-- a prompt that is asked for and let in is handled, and the answer is its output -/
  | accepted {prompt output : String} {after : Session}
      (asks : request.Asks machine front prompt)
      (passes : here.throttle.wait? here.clock = none)
      (handled : d.handleOn machine prompt here = (after, .done output)) :
      Answers machine front d request here after (.ok (PromptResponse.toJson ⟨output, false⟩))
  /-- a prompt that is asked for too early is only noted -/
  | rejected {prompt : String} {wait : Binary64} {seconds : Int}
      (asks : request.Asks machine front prompt)
      (waits : here.throttle.wait? here.clock = some wait) (positive : 1 ≤ seconds) :
      Answers machine front d request here (here.turnAway wait)
        ⟨429, PromptResponse.toJson ⟨Dispatcher.turnedAway, true⟩, some seconds⟩
  /-- what is read is told -/
  | told {endpoint : Endpoint} {view : Session → Json}
      (reads : request.Reads front endpoint view) :
      Answers machine front d request here here (.ok (view here))
  /-- what brings no proper form to the endpoint of prompts is refused -/
  | refused {response : Response} (reaches : front request = .ok .prompt)
      (formless : ∀ prompt, ¬ request.Brings machine prompt)
      (refuses : response.status ∈ [400, 422, 500]) :
      Answers machine front d request here here response
  /-- everything else is answered before it gets to an endpoint -/
  | before {response : Response} (answered : front request = .error response) :
      Answers machine front d request here here response

section

variable {machine : Machine} {front : Front} {d : Dispatcher} {request : Request}
variable {here after : Session} {response : Response}
variable (answers : Answers machine front d request here after response)
include answers

theorem Answers.output {prompt : String} (asks : request.Asks machine front prompt)
    (passes : here.throttle.wait? here.clock = none) :
    ∃ output, d.handleOn machine prompt here = (after, .done output) ∧
      response = .ok (PromptResponse.toJson ⟨output, false⟩) := by
  cases answers with
  | accepted asksSo _ handled =>
      obtain rfl := asks.unique asksSo
      exact ⟨_, handled, rfl⟩
  | rejected _ waits _ => cases passes.symm.trans waits
  | told reads => exact absurd reads (asks.not_reads _ _)
  | refused _ formless _ => exact absurd asks.brings (formless prompt)
  | before answered => cases asks.reaches.symm.trans answered

theorem Answers.tooEarly {prompt : String} {wait : Binary64}
    (asks : request.Asks machine front prompt)
    (waits : here.throttle.wait? here.clock = some wait) :
    ∃ seconds, 1 ≤ seconds ∧
      response = ⟨429, PromptResponse.toJson ⟨Dispatcher.turnedAway, true⟩, some seconds⟩ := by
  cases answers with
  | accepted _ passes _ => cases passes.symm.trans waits
  | rejected _ _ positive => exact ⟨_, positive, rfl⟩
  | told reads => exact absurd reads (asks.not_reads _ _)
  | refused _ formless _ => exact absurd asks.brings (formless prompt)
  | before answered => cases asks.reaches.symm.trans answered

/-- Only prompts that come too early are told so. -/
theorem Answers.waits (reliable : front.Reliable) (early : response.status = 429) :
    ∃ prompt wait, request.Asks machine front prompt ∧
      here.throttle.wait? here.clock = some wait := by
  cases answers with
  | accepted => cases early
  | rejected asks waits _ => exact ⟨_, _, asks, waits⟩
  | told => cases early
  | refused _ _ refuses =>
      have notAmong : 429 ∉ [400, 422, 500] := by decide
      rw [early] at refuses
      exact absurd refuses notAmong
  | before answered => exact absurd early (reliable.unthrottled _ _ answered)

theorem Answers.view {endpoint : Endpoint} {view : Session → Json}
    (reads : request.Reads front endpoint view) : response = .ok (view here) := by
  cases answers with
  | accepted asks _ _ => exact absurd reads (asks.not_reads endpoint view)
  | rejected asks _ _ => exact absurd reads (asks.not_reads endpoint view)
  | told readsSo =>
      obtain rfl := reads.unique readsSo
      rfl
  | refused reaches _ _ =>
      obtain rfl := Except.ok.inj (reads.reaches.symm.trans reaches)
      cases reads.tells
  | before answered => cases reads.reaches.symm.trans answered

theorem Answers.refuses (unasked : ∀ prompt, ¬ request.Asks machine front prompt)
    (unread : ∀ endpoint view, ¬ request.Reads front endpoint view) :
    response.status ∈ [400, 422, 500] ∨ front request = .error response := by
  cases answers with
  | accepted asks _ _ => exact absurd asks (unasked _)
  | rejected asks _ _ => exact absurd asks (unasked _)
  | told reads => exact absurd reads (unread _ _)
  | refused _ _ refuses => exact .inl refuses
  | before answered => exact .inr answered

end

/-! ## Standard bodies -/

theorem areStandard_iff (items : List Json) :
    Json.areStandard items = true ↔ ∀ v ∈ items, v.isStandard = true := by
  induction items with
  | nil => simp [Json.areStandard]
  | cons v items ih => simp [Json.areStandard, ih]

/-- Whatever is told of a session has a form in strict JSON. -/
theorem isStandard_view {endpoint : Endpoint} {view : Session → Json}
    (tells : endpoint.view? = some view) (s : Session) : (view s).isStandard = true := by
  cases endpoint with
  | prompt => cases tells
  | agents =>
      obtain rfl := Option.some.inj tells
      rw [agentList, Json.isStandard, areStandard_iff, List.forall_mem_map]
      intro agent _
      have texts : Json.areStandard (agent.capabilities.map Json.str) = true := by
        rw [areStandard_iff, List.forall_mem_map]
        exact fun _ _ => rfl
      simp [AgentInfo.toJson, Json.isStandard, Json.haveStandard, Json.hasStandard, texts]
  | history =>
      obtain rfl := Option.some.inj tells
      rw [promptList, Json.isStandard, areStandard_iff, List.forall_mem_map]
      exact fun _ _ => rfl
  | health =>
      obtain rfl := Option.some.inj tells
      rfl

theorem checked_of_isStandard {response : Response} (standard : response.body.isStandard = true) :
    response.checked = response := by
  rw [Response.checked, if_pos standard]

/-- A body that is not what was asked for is refused. -/
theorem refuses_checked (fault : BodyFault) :
    fault.response.checked.status ∈ [400, 422, 500] := by
  rw [Response.checked]
  split
  · cases fault <;> simp [BodyFault.response, unprocessable, Response.detailed]
  · simp [Response.internal]

/-- A finite wait is told in whole seconds. -/
theorem exists_throttled_eq {wait : Binary64} (finite : Json.isFinite wait = true)
    (output : String) : ∃ seconds : Int, 1 ≤ seconds ∧
      Response.throttled output wait =
        ⟨429, PromptResponse.toJson ⟨output, true⟩, some seconds⟩ := by
  cases wait with
  | nan => cases finite
  | infinite negative => cases finite
  | finite negative rank => exact ⟨_, le_max_left _ _, rfl⟩

/-! ## Every request is answered -/

section

variable {machine : Machine} {front : Front} {d : Dispatcher} {here : Session}
variable {request : Request}

theorem respond_of_reaches {handle : Handler} {endpoint : Endpoint}
    (reaches : front request = .ok endpoint) :
    respond machine front handle request here =
      ((serve machine handle endpoint request here).1,
        (serve machine handle endpoint request here).2.checked) := by
  rw [respond, reaches]

theorem answers_of_view {handle : Handler} {endpoint : Endpoint} {view : Session → Json}
    (reads : request.Reads front endpoint view) :
    Answers machine front d request here (respond machine front handle request here).1
      (respond machine front handle request here).2 := by
  have served : serve machine handle endpoint request here = (here, .ok (view here)) := by
    have tells := reads.tells
    cases endpoint with
    | prompt => cases tells
    | _ =>
        obtain rfl := Option.some.inj tells
        rfl
  have standard : (Response.ok (view here)).body.isStandard = true :=
    isStandard_view reads.tells here
  rw [respond_of_reaches reads.reaches, served, checked_of_isStandard standard]
  exact .told reads

variable (copies : here.Copies machine) (named : d.Named)
variable (patient : here.roster.All (Agent.ObeysInChains .patient))
variable (finite : ∀ wait, here.throttle.wait? here.clock = some wait → Json.isFinite wait = true)
include copies named patient finite

/-- A prompt that is asked for is let in and handled to its end, or turned away. -/
theorem answers_prompt {prompt : String} (asks : request.Asks machine front prompt) :
    Answers machine front d request here (d.handleOn machine prompt here).1
      (promptResponse (d.handleOn machine prompt here).2).checked := by
  have without := (Dispatcher.handleOn_eq copies d prompt).1
  cases waits : here.throttle.wait? here.clock with
  | some wait =>
      obtain ⟨-, handled, -⟩ := (Dispatcher.admission d prompt here).turnsAway wait waits
      obtain ⟨seconds, positive, throttled⟩ :=
        exists_throttled_eq (finite wait waits) Dispatcher.turnedAway
      rw [without, handled, promptResponse, throttled, checked_of_isStandard rfl]
      exact .rejected asks waits positive
  | none =>
      have never : ¬ Rules.patient.halting := fun halts => halts
      obtain ⟨after, texts, reports, handled, -, -⟩ :=
        Dispatcher.handle_of_passes never named patient prompt waits
      have handledOn := without.trans handled
      rw [handledOn, promptResponse, checked_of_isStandard rfl]
      exact .accepted asks waits handledOn

/-- Every request is answered in one of these ways. -/
theorem answers_respond (request : Request) :
    Answers machine front d request here
      (respond machine front (d.handleOn machine) request here).1
      (respond machine front (d.handleOn machine) request here).2 := by
  cases reaches : front request with
  | error response =>
      rw [respond, reaches]
      exact .before reaches
  | ok endpoint =>
      cases endpoint with
      | prompt =>
          rw [respond_of_reaches reaches, serve, servePrompt]
          cases formed : request.prompt machine with
          | ok form =>
              exact answers_prompt copies named patient finite
                ⟨reaches, Request.brings_iff.mpr formed⟩
          | error fault =>
              refine .refused reaches ?_ (refuses_checked fault)
              intro prompt brings
              rw [Request.brings_iff.mp brings] at formed
              cases formed
      | _ => exact answers_of_view ⟨reaches, rfl⟩

end

end Gateway

end PromptDispatch
