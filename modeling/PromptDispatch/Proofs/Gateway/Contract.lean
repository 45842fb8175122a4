import PromptDispatch.Proofs.Binary64.Difference
import PromptDispatch.Proofs.Dispatch.Oblivion
import PromptDispatch.Proofs.Gateway.Answers

/-!
# The contract of the gateway

Requests of any kind come one after another, each at its own time.  Those that ask for
a prompt are answered with its output, or told to wait exactly when the throttle turns
them away.  Nothing but the prompts that were answered with their output leaves
anything behind, so whatever is read shows a session that handled these prompts, at
their times, and nothing else.

This is so where the machine can copy all entries.  An agent whose entries it cannot copy
is entered and not run, and a prompt for it is let in and answered with a fault.
-/

namespace PromptDispatch

/-- On a clock that does not run backwards, every wait within a finite window is
finite. -/
theorem Throttle.isFinite_of_wait? {t : Throttle Binary64} {now wait : Binary64}
    (window : Json.isFinite t.window = true) (nowFinite : Json.isFinite now = true)
    (earlier : ∀ before ∈ t.accepted, Json.isFinite before = true ∧ ¬ now < before)
    (waits : t.wait? now = some wait) : Json.isFinite wait = true := by
  rw [Throttle.wait?] at waits
  cases accepted : t.accepted with
  | none => simp [accepted] at waits
  | some before =>
      obtain ⟨beforeFinite, notEarlier⟩ := earlier before accepted
      obtain ⟨w, windowUnits⟩ := Option.isSome_iff_exists.mp window
      obtain ⟨n, nowUnits⟩ := Option.isSome_iff_exists.mp nowFinite
      obtain ⟨b, beforeUnits⟩ := Option.isSome_iff_exists.mp beforeFinite
      rw [Binary64.lt_iff_units nowUnits beforeUnits, not_lt] at notEarlier
      simp only [accepted] at waits
      split at waits
      · split at waits
        · next short =>
          obtain rfl := Option.some.inj waits
          obtain ⟨sign, elapsed⟩ := Binary64.exists_sub_eq_ofUnits nowUnits beforeUnits
          rw [elapsed] at short ⊢
          rcases Binary64.ofUnits_of_nonneg (sub_nonneg.mpr notEarlier) sign with
            infinite | ⟨e, elapsedUnits, nonneg⟩
          · -- an infinite time is no shorter than the window
            obtain ⟨negative, rank, isWindow⟩ := Binary64.exists_eq_finite windowUnits
            rw [infinite, isWindow] at short
            cases short
          · rw [Binary64.lt_iff_units elapsedUnits windowUnits] at short
            obtain ⟨sign', left⟩ := Binary64.exists_sub_eq_ofUnits windowUnits elapsedUnits
            obtain ⟨rest, units⟩ := Binary64.exists_units_ofUnits windowUnits
              (sub_nonneg.mpr short.le) (sub_le_self w nonneg) sign'
            rw [left]
            exact Option.isSome_iff_exists.mpr ⟨rest, units⟩
        · cases waits
      · cases waits

namespace Gateway

open Store (newest)

/-! ## Visits -/

/-- A request and the time at which it comes. -/
structure Visit where
  time : Binary64
  request : Request

/-- The session that a visit finds. -/
def Visit.finds (visit : Visit) (s : Session) : Session := { s with clock := visit.time }

/-- Answers the request of a visit on a machine behind a front. -/
def Visit.served (machine : Machine) (front : Front) (d : Dispatcher) (visit : Visit)
    (s : Session) : Session × Response :=
  respond machine front (d.handleOn machine) visit.request (visit.finds s)

/-- Answers visits in order. -/
def serveAll (machine : Machine) (front : Front) (d : Dispatcher) :
    List Visit → Session → Session × List Response
  | [], s => (s, [])
  | visit :: visits, s =>
    let (s, response) := visit.served machine front d s
    let (s, responses) := serveAll machine front d visits s
    (s, response :: responses)

/-- The time and the prompt of a visit that was answered with the output of its
prompt. -/
def Visit.granted? (machine : Machine) (front : Front) (visit : Visit) (response : Response) :
    Option (Binary64 × String) :=
  if response.status = 200 then (visit.request.asked? machine front).map (visit.time, ·) else none

/-- The times and the prompts of all visits that were answered with an output. -/
def granted (machine : Machine) (front : Front) (visits : List Visit)
    (responses : List Response) : List (Binary64 × String) :=
  (visits.zip responses).filterMap fun (visit, response) =>
    visit.granted? machine front response

/-- Handles prompts at their times on a machine, and does nothing else. -/
def handleAll (machine : Machine) (d : Dispatcher) (calls : List (Binary64 × String))
    (s : Session) : Session :=
  calls.foldl (fun s (time, prompt) => (d.handleOn machine prompt { s with clock := time }).1) s

variable {machine : Machine} {front : Front} {d : Dispatcher} {s t after : Session}
variable {visit : Visit} {response : Response}

theorem copies_of_resembles (copies : s.Copies machine) (same : s.Resembles t) :
    t.Copies machine := by
  refine copies.of_fewer ?_ ?_
  · rw [same.store]
  · rw [same.roster]
    exact List.Subset.refl _

/-- Handling prompts at their times leaves like sessions of like ones. -/
theorem handleAll_resembles (copies : s.Copies machine) (same : s.Resembles t)
    (calls : List (Binary64 × String)) :
    (handleAll machine d calls s).Resembles (handleAll machine d calls t) := by
  induction calls generalizing s t with
  | nil => exact same
  | cons call calls ih =>
      have sameThen : Session.Resembles { s with clock := call.1 } { t with clock := call.1 } :=
        ⟨same.throttle, same.store, same.archive, same.disk, same.roster, same.runs, same.events⟩
      have copiesHere : Session.Copies machine { s with clock := call.1 } :=
        copies.of_fewer rfl (List.Subset.refl _)
      obtain ⟨here, copiesThen⟩ := Dispatcher.handleOn_eq copiesHere d call.2
      obtain ⟨there, -⟩ := Dispatcher.handleOn_eq (copies_of_resembles copiesHere sameThen) d call.2
      have sameLast := (d.handle_resembles call.2 sameThen rfl).1
      rw [← here] at copiesThen
      rw [← here, ← there] at sameLast
      exact ih copiesThen sameLast

theorem Visit.copies_finds (visit : Visit) (copies : s.Copies machine) :
    (visit.finds s).Copies machine :=
  copies.of_fewer rfl (List.Subset.refl _)

/-- A visit is answered with the output of its prompt, which was let in, or it leaves
nothing behind. -/
theorem Answers.granted_or_resembles
    (answers : Answers machine front d visit.request (visit.finds s) after response) :
    (∃ prompt output, visit.granted? machine front response = some (visit.time, prompt) ∧
      s.throttle.wait? visit.time = none ∧
      d.handleOn machine prompt (visit.finds s) = (after, .done output)) ∨
    visit.granted? machine front response = none ∧ after.Resembles s := by
  have found : (visit.finds s).Resembles s :=
    (Session.resembles_of_clock_journal s visit.time s.journal).symm
  have unasked (none_asked : ∀ prompt, ¬ visit.request.Asks machine front prompt)
      (response : Response) : visit.granted? machine front response = none := by
    have nothing : visit.request.asked? machine front = none := by
      rw [Option.eq_none_iff_forall_ne_some]
      intro prompt asked
      exact none_asked prompt (Request.asks_iff.mpr asked)
    rw [Visit.granted?, nothing]
    split <;> rfl
  cases answers with
  | @accepted prompt output after asks passes handled =>
      refine .inl ⟨prompt, output, ?_, passes, handled⟩
      rw [Visit.granted?, Request.asks_iff.mp asks]
      rfl
  | @rejected prompt wait seconds asks waits positive =>
      refine .inr ⟨rfl, ?_⟩
      exact (Session.resembles_of_clock_journal s _ _).symm
  | told reads => exact .inr ⟨unasked (fun _ asks => asks.not_reads _ _ reads) _, found⟩
  | refused _ formless _ =>
      exact .inr ⟨unasked (fun prompt asks => formless prompt asks.brings) _, found⟩
  | before answered =>
      refine .inr ⟨unasked (fun _ asks => ?_) _, found⟩
      cases asks.reaches.symm.trans answered

/-- What a prompt leaves that was let in and handled. -/
theorem kept_of_handled {prompt : String} {finish : Finish String} (copies : s.Copies machine)
    (passes : s.throttle.wait? visit.time = none)
    (handled : d.handleOn machine prompt (visit.finds s) = (after, finish)) :
    after.throttle = { s.throttle with accepted := some visit.time } ∧
      after.store.limits = s.store.limits ∧
      after.store.prompts = newest s.store.limits.prompts
        (s.store.prompts ++ [Prompt.sanitize prompt]) := by
  obtain ⟨⟨lines, accepted⟩, keeps, -⟩ :=
    (Dispatcher.admission d prompt (visit.finds s)).letsIn passes
  rw [(Dispatcher.handleOn_eq (visit.copies_finds copies) d prompt).1] at handled
  rw [handled, accepted] at keeps
  exact ⟨keeps.throttle, keeps.limits, keeps.prompts⟩

/-! ## What the gateway relies on -/

/-- The body of a request spells half of a character. -/
def Request.SpellsHalf (request : Request) : Prop :=
  ∃ position, Json.readWire request.body = .error (.halved position)

instance (request : Request) : Decidable request.SpellsHalf :=
  match read : Json.readWire request.body with
  | .error (.halved position) => isTrue ⟨position, read⟩
  | .error (.refused _ _) => isFalse fun ⟨_, half⟩ => by cases read.symm.trans half
  | .error (.tooManyDigits _ _) => isFalse fun ⟨_, half⟩ => by cases read.symm.trans half
  | .ok _ => isFalse fun ⟨_, half⟩ => by cases read.symm.trans half

/-- What the gateway relies on while visits come to a session. -/
structure Relies (machine : Machine) (front : Front) (d : Dispatcher) (s : Session)
    (visits : List Visit) : Prop where
  reliable : front.Reliable
  /-- every entry can be copied, and agents save nothing that cannot -/
  copies : s.Copies machine
  named : d.Named
  /-- no agent ends a run by a cancellation -/
  patient : s.roster.All (Agent.ObeysInChains .patient)
  window : Json.isFinite s.throttle.window = true
  /-- times are finite numbers -/
  finite : ∀ time ∈ s.throttle.accepted.toList ++ visits.map (·.time), Json.isFinite time = true
  /-- and they never run backwards -/
  forward : (s.throttle.accepted.toList ++ visits.map (·.time)).Pairwise fun earlier later =>
    ¬ later < earlier
  /-- bodies hold whole characters -/
  whole : ∀ visit ∈ visits, ¬ visit.request.SpellsHalf

variable {visits before : List Visit}

/-- The same can be relied on when nothing but visits and their times falls away. -/
theorem Relies.of_fewer {later : List Visit} (relies : Relies machine front d s visits)
    (copies : after.Copies machine) (patient : after.roster.All (Agent.ObeysInChains .patient))
    (window : after.throttle.window = s.throttle.window)
    (fewer : (after.throttle.accepted.toList ++ later.map (·.time)).Sublist
      (s.throttle.accepted.toList ++ visits.map (·.time)))
    (among : later ⊆ visits) : Relies machine front d after later where
  reliable := relies.reliable
  copies := copies
  named := relies.named
  patient := patient
  window := by
    rw [window]
    exact relies.window
  finite := fun time timeMem => relies.finite time (fewer.subset timeMem)
  forward := relies.forward.sublist fewer
  whole := fun visit visitMem => relies.whole visit (among visitMem)

theorem Relies.of_append (relies : Relies machine front d s (before ++ visits)) :
    Relies machine front d s before := by
  refine relies.of_fewer relies.copies relies.patient rfl ?_ (List.subset_append_left _ _)
  rw [List.map_append]
  exact (List.sublist_append_left _ _).append_left _

theorem Relies.answers (relies : Relies machine front d s (visit :: visits)) :
    Answers machine front d visit.request (visit.finds s) (visit.served machine front d s).1
      (visit.served machine front d s).2 := by
  have patient : (visit.finds s).roster.All (Agent.ObeysInChains .patient) := relies.patient
  apply answers_respond (visit.copies_finds relies.copies) relies.named patient
  intro wait waits
  apply Throttle.isFinite_of_wait? relies.window _ _ waits
  · exact relies.finite visit.time (by simp)
  · intro before accepted
    have isEarlier : before ∈ s.throttle.accepted.toList := Option.mem_toList.mpr accepted
    refine ⟨relies.finite before (List.mem_append_left _ isEarlier), ?_⟩
    exact (List.pairwise_append.mp relies.forward).2.2 before isEarlier visit.time (by simp)

/-- After a visit the gateway can rely on the same for those to come. -/
theorem Relies.served (relies : Relies machine front d s (visit :: visits)) :
    Relies machine front d (visit.served machine front d s).1 visits := by
  have among : visits ⊆ visit :: visits := List.subset_cons_self visit visits
  rcases relies.answers.granted_or_resembles with
    ⟨prompt, output, -, passes, handled⟩ | ⟨-, same⟩
  · have never : ¬ Rules.patient.halting := fun halts => halts
    obtain ⟨without, copiesThen⟩ :=
      Dispatcher.handleOn_eq (visit.copies_finds relies.copies) d prompt
    obtain ⟨after, texts, reports, handledSo, chronicle, -⟩ :=
      Dispatcher.handle_of_passes never relies.named relies.patient prompt
        (s := visit.finds s) passes
    obtain ⟨throttle, -, -⟩ := kept_of_handled relies.copies passes handled
    rw [without, handledSo] at handled
    obtain ⟨isAfter, -⟩ := Prod.ext_iff.mp handled
    rw [handledSo] at copiesThen
    dsimp only at isAfter copiesThen
    rw [← isAfter] at throttle ⊢
    refine relies.of_fewer copiesThen ?_ ?_ ?_ among
    · intro agent agentMem
      exact relies.patient agent (chronicle.roster agentMem)
    · rw [throttle]
    · rw [throttle]
      exact List.sublist_append_right _ _
  · refine relies.of_fewer (copies_of_resembles relies.copies same.symm) ?_ ?_ ?_ among
    · rw [same.roster]
      exact relies.patient
    · rw [same.throttle]
    · rw [same.throttle]
      exact (List.sublist_cons_self _ _).append_left _

theorem Relies.serveAll (relies : Relies machine front d s (before ++ visits)) :
    Relies machine front d (Gateway.serveAll machine front d before s).1 visits := by
  induction before generalizing s with
  | nil => exact relies
  | cons visit before ih => exact ih relies.served

/-! ## Runs of visits -/

theorem granted_cons (visit : Visit) (visits : List Visit) (response : Response)
    (responses : List Response) :
    granted machine front (visit :: visits) (response :: responses) =
      (visit.granted? machine front response).toList ++ granted machine front visits responses := by
  rw [granted, List.zip_cons_cons, List.filterMap_cons]
  dsimp only
  cases visit.granted? machine front response <;> rfl

/-- Visits leave what is left when only the prompts are handled that they were
granted. -/
theorem serveAll_resembles (relies : Relies machine front d s visits) :
    (serveAll machine front d visits s).1.Resembles
      (handleAll machine d
        (granted machine front visits (serveAll machine front d visits s).2) s) := by
  induction visits generalizing s with
  | nil => exact .refl s
  | cons visit visits ih =>
      have rest := ih relies.served
      rw [serveAll, granted_cons, handleAll, List.foldl_append, ← handleAll, ← handleAll]
      apply rest.trans
      apply handleAll_resembles relies.served.copies
      rcases relies.answers.granted_or_resembles with
        ⟨prompt, output, isGranted, passes, handled⟩ | ⟨notGranted, same⟩
      · rw [isGranted, Option.toList_some, handleAll, List.foldl_cons, List.foldl_nil]
        change (visit.served machine front d s).1.Resembles
          (d.handleOn machine prompt (visit.finds s)).1
        rw [handled]
        exact .refl _
      · rw [notGranted, Option.toList_none, handleAll, List.foldl_nil]
        exact same

/-- After visits, the time of the last call is that of the last prompt that was
granted. -/
theorem accepted_serveAll (relies : Relies machine front d s visits) :
    (serveAll machine front d visits s).1.throttle.accepted =
      ((granted machine front visits (serveAll machine front d visits s).2).getLast?.map
        Prod.fst).or s.throttle.accepted := by
  induction visits generalizing s with
  | nil => rfl
  | cons visit visits ih =>
      rw [serveAll, granted_cons, ih relies.served, List.getLast?_append]
      rcases relies.answers.granted_or_resembles with
        ⟨prompt, output, isGranted, passes, handled⟩ | ⟨notGranted, same⟩
      · rw [isGranted, (kept_of_handled relies.copies passes handled).1]
        cases (granted machine front visits _).getLast? <;> rfl
      · rw [notGranted, same.throttle]
        cases (granted machine front visits _).getLast? <;> rfl

/-- After visits, the kept prompts are the latest of those that were granted. -/
theorem prompts_serveAll (relies : Relies machine front d s visits)
    (within : s.store.prompts.length ≤ s.store.limits.prompts) :
    (serveAll machine front d visits s).1.store.prompts = newest s.store.limits.prompts
      (s.store.prompts ++
        (granted machine front visits (serveAll machine front d visits s).2).map fun call =>
          Prompt.sanitize call.2) := by
  induction visits generalizing s with
  | nil =>
      rw [serveAll, granted, List.zip_nil_left, List.filterMap_nil, List.map_nil, List.append_nil,
        Store.newest_of_length_le within]
  | cons visit visits ih =>
      rw [serveAll, granted_cons]
      rcases relies.answers.granted_or_resembles with
        ⟨prompt, output, isGranted, passes, handled⟩ | ⟨notGranted, same⟩
      · obtain ⟨-, limits, prompts⟩ := kept_of_handled relies.copies passes handled
        have withinThen : (visit.served machine front d s).1.store.prompts.length ≤
            (visit.served machine front d s).1.store.limits.prompts := by
          rw [limits, prompts]
          exact Store.length_newest_le _ _
        rw [ih relies.served withinThen, limits, prompts, isGranted, Store.newest_newest_append,
          List.append_assoc]
        rfl
      · have withinThen : (visit.served machine front d s).1.store.prompts.length ≤
            (visit.served machine front d s).1.store.limits.prompts := by
          rw [same.store]
          exact within
        rw [ih relies.served withinThen, same.store, notGranted]
        rfl

/-! ## The contract -/

/-- What a request is promised: the session it finds is `before`, and `reference` is one
that handled nothing but the prompts granted so far. -/
structure Contract (machine : Machine) (front : Front) (d : Dispatcher) (visit : Visit)
    (before reference after : Session) (response : Response) : Prop where
  /-- a prompt that the throttle lets in is answered with its output -/
  output : ∀ prompt, visit.request.Asks machine front prompt →
    before.throttle.wait? visit.time = none →
      ∃ output, d.handleOn machine prompt (visit.finds before) = (after, .done output) ∧
        response = .ok (PromptResponse.toJson ⟨output, false⟩)
  /-- a prompt that it turns away is told to wait -/
  tooEarly : ∀ prompt wait, visit.request.Asks machine front prompt →
    before.throttle.wait? visit.time = some wait →
      ∃ seconds, 1 ≤ seconds ∧
        response = ⟨429, PromptResponse.toJson ⟨Dispatcher.turnedAway, true⟩, some seconds⟩
  /-- and nobody else is -/
  onlyTooEarly : response.status = 429 →
    ∃ prompt wait, visit.request.Asks machine front prompt ∧
      before.throttle.wait? visit.time = some wait
  /-- whatever is not answered with the output of a prompt leaves nothing behind -/
  unchanged : response.status = 429 ∨ (∀ prompt, ¬ visit.request.Asks machine front prompt) →
    after.Resembles before
  /-- what is read shows the prompts that were granted, and nothing else -/
  reads : ∀ endpoint view, visit.request.Reads front endpoint view →
    response = .ok (view reference)
  /-- every other request is refused, or answered before it gets to an endpoint -/
  refuses : (∀ prompt, ¬ visit.request.Asks machine front prompt) →
    (∀ endpoint view, ¬ visit.request.Reads front endpoint view) →
      response.status ∈ [400, 422, 500] ∨ front visit.request = .error response

theorem view_resembles {endpoint : Endpoint} {view : Session → Json}
    (tells : endpoint.view? = some view) (same : s.Resembles t) : view s = view t := by
  cases endpoint with
  | prompt => cases tells
  | agents =>
      obtain rfl := Option.some.inj tells
      rw [agentList, agentList, same.roster]
  | history =>
      obtain rfl := Option.some.inj tells
      rw [promptList, promptList, same.store]
  | health =>
      obtain rfl := Option.some.inj tells
      rw [health, health, same.roster, same.archive]

/-- However a request is answered, what it is promised is kept. -/
theorem Answers.contract {reference : Session} (reliable : front.Reliable)
    (answers : Answers machine front d visit.request (visit.finds s) after response)
    (same : s.Resembles reference) :
    Contract machine front d visit s reference after response := by
  have unchanged (answered : response.status = 429 ∨
      ∀ prompt, ¬ visit.request.Asks machine front prompt) : after.Resembles s := by
    rcases answers.granted_or_resembles with ⟨prompt, output, isGranted, -, -⟩ | ⟨-, same⟩
    · rw [Visit.granted?] at isGranted
      split at isGranted
      · next success =>
        obtain ⟨prompt, asked, -⟩ := Option.map_eq_some_iff.mp isGranted
        rcases answered with early | unasked
        · rw [success] at early
          cases early
        · exact absurd (Request.asks_iff.mpr asked) (unasked prompt)
      · cases isGranted
    · exact same
  refine ⟨fun _ => answers.output, fun _ _ => answers.tooEarly, answers.waits reliable, unchanged,
    ?_, answers.refuses⟩
  intro endpoint view reads
  have found : (visit.finds s).Resembles reference :=
    (Session.resembles_of_clock_journal s visit.time s.journal).symm.trans same
  rw [answers.view reads, view_resembles reads.tells found]

/-- The contract is kept on every visit, whatever requests came before it.  The session
that a visit finds is, but for the clock and the journal, the one that handled exactly
the prompts that were answered with their output; the throttle remembers the time of
the last one, and the kept prompts are the latest of them. -/
theorem keeps_contract {start : Session} {responses : List Response}
    (relies : Relies machine front d start (before ++ [visit]))
    (served : serveAll machine front d before start = (s, responses))
    (answered : visit.served machine front d s = (after, response)) :
    Contract machine front d visit s
        (handleAll machine d (granted machine front before responses) start) after response ∧
      s.Resembles (handleAll machine d (granted machine front before responses) start) ∧
      s.throttle.accepted =
        ((granted machine front before responses).getLast?.map Prod.fst).or
          start.throttle.accepted ∧
      (start.store.prompts.length ≤ start.store.limits.prompts →
        s.store.prompts = newest start.store.limits.prompts (start.store.prompts ++
          (granted machine front before responses).map fun call => Prompt.sanitize call.2)) := by
  have earlier : Relies machine front d start before := relies.of_append
  have same := serveAll_resembles earlier
  have accepted := accepted_serveAll earlier
  have prompts := prompts_serveAll earlier
  have answers := relies.serveAll.answers
  rw [served] at same accepted prompts answers
  rw [answered] at answers
  exact ⟨answers.contract relies.reliable same, same, accepted, prompts⟩

/-! ## A morning at the gateway -/

open Dispatcher (forPair throttledPair)

/-- The front of the framework, with nothing on its own pages. -/
def plainFront : Front := .standard fun _ => .ok .null

theorem Endpoint.ofPath?_path (endpoint : Endpoint) : ofPath? endpoint.path = some endpoint := by
  cases endpoint <;> rfl

theorem reliable_plainFront : plainFront.Reliable where
  reaches request endpoint path method := by
    rw [plainFront, Front.standard, path, Endpoint.ofPath?_path]
    exact if_pos method
  unthrottled request response answered := by
    rw [plainFront, Front.standard] at answered
    split at answered
    · split at answered
      · cases answered
      · obtain rfl := Except.error.inj answered
        decide
    · split at answered
      · split at answered <;> (obtain rfl := Except.error.inj answered; decide)
      · dsimp only at answered
        split at answered <;> (obtain rfl := Except.error.inj answered; decide)

/-- A request to dispatch a prompt. -/
def posting (prompt : String) : Request where
  method := "POST"
  target := "/prompt"
  body := Json.wire (PromptRequest.toJson ⟨prompt⟩)

/-- A request to read the kept prompts. -/
def readingHistory : Request := ⟨"GET", "/history", "", ""⟩

/-- Requests within two seconds: a prompt, one that is empty, one that comes too early,
one with a wrong method, and one for a path with a slash at its end. -/
def morning : List Visit :=
  [⟨.ofInt 10, posting "Fix the <b>docs</b>"⟩, ⟨.ofInt 11, posting ""⟩,
    ⟨.ofInt 11, posting "Hello"⟩, ⟨.ofInt 12, { posting "Hello" with method := "GET" }⟩,
    ⟨.ofInt 12, { posting "Hello" with target := "/prompt/" }⟩]

theorem copies_throttledPair : throttledPair.Copies .standard where
  room := by decide
  entries entry entryMem := by cases entryMem
  agents agent agentMem := by
    have canCopy := Machine.canCopy_str .standard
    rcases List.mem_cons.mp agentMem with rfl | agentMem
    · exact fun _ _ _ _ text _ => ⟨canCopy _, trivial⟩
    · obtain rfl := List.mem_singleton.mp agentMem
      exact fun _ _ _ _ text _ => ⟨canCopy _, trivial⟩

theorem keeps_contract_throttledPair :
    Relies .standard plainFront forPair throttledPair
        (morning ++ [⟨.ofInt 12, readingHistory⟩]) ∧
      ∃ s responses after response,
        serveAll .standard plainFront forPair morning throttledPair = (s, responses) ∧
        responses.map (·.status) = [200, 422, 429, 405, 307] ∧
        Visit.served .standard plainFront forPair ⟨.ofInt 12, readingHistory⟩ s =
          (after, response) ∧
        s.throttle.accepted = some (.ofInt 10) ∧ s.store.prompts = ["Fix the docs"] ∧
        response = .ok (.arr [.obj [("prompt", .str "Fix the docs")]]) := by
  have relies : Relies .standard plainFront forPair throttledPair
      (morning ++ [⟨.ofInt 12, readingHistory⟩]) := by
    refine ⟨reliable_plainFront, copies_throttledPair, Dispatcher.named_forPair, ?_,
      by decide +kernel, by decide +kernel, by decide +kernel, by decide +kernel⟩
    intro agent agentMem
    rcases List.mem_cons.mp agentMem with rfl | agentMem
    · exact fun _ _ _ _ _ _ => ⟨trivial, trivial⟩
    · obtain rfl := List.mem_singleton.mp agentMem
      exact fun _ _ _ _ _ _ => ⟨trivial, trivial⟩
  refine ⟨relies, ?_⟩
  have answers : (serveAll .standard plainFront forPair morning throttledPair).2.map (·.status) =
        [200, 422, 429, 405, 307] ∧
      granted .standard plainFront morning
          (serveAll .standard plainFront forPair morning throttledPair).2 =
        [(.ofInt 10, "Fix the <b>docs</b>")] := by decide +kernel
  obtain ⟨statuses, calls⟩ := answers
  rcases served : serveAll .standard plainFront forPair morning throttledPair with ⟨s, responses⟩
  rcases answered : Visit.served .standard plainFront forPair ⟨.ofInt 12, readingHistory⟩ s with
    ⟨after, response⟩
  obtain ⟨contract, same, accepted, prompts⟩ := keeps_contract relies served answered
  rw [served] at statuses calls
  have within : throttledPair.store.prompts.length ≤ throttledPair.store.limits.prompts := by
    decide
  have isHistory : s.store.prompts = ["Fix the docs"] := by
    rw [prompts within, calls]
    decide +kernel
  have reads : readingHistory.Reads plainFront .history promptList :=
    ⟨relies.reliable.reaches _ .history (by decide +kernel) rfl, rfl⟩
  refine ⟨s, responses, after, response, rfl, statuses, answered, ?_, isHistory, ?_⟩
  · rw [accepted, calls]
    rfl
  · rw [contract.reads .history promptList reads, ← view_resembles reads.tells same, promptList,
      isHistory]
    rfl

/-- An agent that keeps a lock. -/
def keeper : Agent where
  name := "keeper"
  capabilities := []
  kind := none
  run := fun input _ => .save "guard" (.sealed "lock") (.done (.text input))
  afterSubtask := none
  start := none
  stop := none

/-- A dispatcher that knows no route. -/
def forKeeper : Dispatcher := ⟨[], "keeper"⟩

/-- A session with the agent, behind a throttle of two seconds. -/
def keeperSession : Session := { throttledPair with roster := ⟨[keeper]⟩ }

/-- A prompt for the agent. -/
def keeping : Visit := ⟨.ofInt 10, posting "Keep this"⟩

/-- A prompt for the agent that finds the lock. -/
def finding : Visit := ⟨.ofInt 20, posting "And this"⟩

/-- The first prompt is answered with its output.  The second one is let in as well, and
recorded, and it is answered with a fault: the agent's lock cannot be copied. -/
theorem serves_fault_keeperSession :
    forKeeper.Named ∧ keeperSession.roster.All (Agent.ObeysInChains .patient) ∧
      ∃ s responses after response,
        serveAll .standard plainFront forKeeper [keeping] keeperSession = (s, responses) ∧
        responses.map (·.status) = [200] ∧
        finding.request.Asks .standard plainFront "And this" ∧
        s.throttle.wait? finding.time = none ∧
        finding.served .standard plainFront forKeeper s = (after, response) ∧
        response.status = 500 ∧ after.throttle.accepted = some finding.time ∧
        after.store.prompts = ["Keep this", "And this"] := by
  have patient : keeperSession.roster.All (Agent.ObeysInChains .patient) := by
    intro agent agentMem
    obtain rfl := List.mem_singleton.mp agentMem
    exact fun _ _ _ _ => ⟨trivial, trivial⟩
  have asks : finding.request.Asks .standard plainFront "And this" := by
    rw [Request.asks_iff]
    decide +kernel
  have first : (serveAll .standard plainFront forKeeper [keeping] keeperSession).2.map
        (·.status) = [200] ∧
      (serveAll .standard plainFront forKeeper [keeping] keeperSession).1.throttle.wait?
        finding.time = none := by decide +kernel
  have second : (finding.served .standard plainFront forKeeper
        (serveAll .standard plainFront forKeeper [keeping] keeperSession).1).2.status = 500 ∧
      (finding.served .standard plainFront forKeeper
        (serveAll .standard plainFront forKeeper [keeping] keeperSession).1).1.throttle.accepted =
          some finding.time ∧
      (finding.served .standard plainFront forKeeper
        (serveAll .standard plainFront forKeeper [keeping] keeperSession).1).1.store.prompts =
          ["Keep this", "And this"] := by decide +kernel
  obtain ⟨statuses, passes⟩ := first
  obtain ⟨fault, accepted, prompts⟩ := second
  rcases served : serveAll .standard plainFront forKeeper [keeping] keeperSession with
    ⟨s, responses⟩
  rw [served] at statuses passes fault accepted prompts
  dsimp only at fault accepted prompts
  rcases answered : finding.served .standard plainFront forKeeper s with ⟨after, response⟩
  rw [answered] at fault accepted prompts
  exact ⟨⟨by simp [forKeeper], by decide⟩, patient, s, responses, after, response, rfl, statuses,
    asks, passes, answered, fault, accepted, prompts⟩

end Gateway

end PromptDispatch
