import PromptDispatch.Proofs.Dispatch.Moment

/-!
# The cycle guard

Agents may ask each other in any cycle, ask for agents that are missing, and
give up names while a chain goes on.  A dispatch along a chain still comes to
its end.  No agent's run is started twice, the visited agents are those whose
run was started, and agents at work never wait for more others than are
registered.

The bound that a dispatch sets to the depth of its chain is therefore never
met: the process of a dispatch goes through the moments of the chain, which
know no bound.
-/

namespace PromptDispatch

namespace Session

namespace Moment

variable {machine : Machine} {prompt : String} {others : Nat → Session → Session}
variable {m m' last : Moment}
variable {roster : Roster} {before : List String}

/-! ## Runs -/

theorem after_add (count more : Nat) (m : Moment) :
    after machine prompt others (count + more) m =
      (after machine prompt others count m).bind (after machine prompt others more) := by
  induction count generalizing m with
  | zero => simp [after]
  | succ count ih =>
      rw [Nat.succ_add, after, after, Option.bind_assoc]
      congr 1
      funext next
      exact ih next

/-- A moment comes about from another one. -/
def Comes (machine : Machine) (prompt : String) (others : Nat → Session → Session) (m last : Moment) : Prop :=
  ∃ count, after machine prompt others count m = some last

theorem Comes.refl (m : Moment) : Comes machine prompt others m m := ⟨0, rfl⟩

theorem Comes.head (stepped : m.step machine prompt others = some m')
    (comes : Comes machine prompt others m' last) : Comes machine prompt others m last := by
  rcases comes with ⟨count, reached⟩
  exact ⟨count + 1, by rw [after, stepped]; exact reached⟩

theorem Comes.trans {middle : Moment} (first : Comes machine prompt others m middle)
    (second : Comes machine prompt others middle last) : Comes machine prompt others m last := by
  rcases first with ⟨count, reached⟩
  rcases second with ⟨more, reachedLast⟩
  exact ⟨count + more, by rw [after_add, reached]; exact reachedLast⟩

/-- Induction along a run: what holds at its beginning and is kept by every
step holds at its end. -/
theorem Comes.preserves {P : Moment → Prop} (comes : Comes machine prompt others m last) (holds : P m)
    (kept : ∀ m m', P m → m.step machine prompt others = some m' → P m') : P last := by
  rcases comes with ⟨count, reached⟩
  induction count generalizing m with
  | zero => exact Option.some.inj reached ▸ holds
  | succ count ih =>
      rcases Option.bind_eq_some_iff.mp reached with ⟨next, stepped, rest⟩
      exact ih (kept m next holds stepped) rest

/-- Others may do anything to a session but register an agent. -/
def RegistersNobody (others : Nat → Session → Session) : Prop :=
  ∀ i s, (others i s).roster.agents ⊆ s.roster.agents

section

variable (registersNobody : RegistersNobody others)
variable (inText : ∀ agent ∈ roster.agents, agent.AsksInText)
include registersNobody inText

theorem Sound.step (sound : m.Sound roster before) (stepped : m.step machine prompt others = some m') :
    m'.Sound roster before :=
  (follows_of_step registersNobody stepped).sound inText sound

theorem Sound.comes (sound : m.Sound roster before) (comes : Comes machine prompt others m last) :
    last.Sound roster before :=
  comes.preserves sound fun _ _ holds stepped => holds.step registersNobody inText stepped

omit inText in
theorem Comes.visited_subset (comes : Comes machine prompt others m last) : m.visited ⊆ last.visited := by
  refine comes.preserves (P := fun later => m.visited ⊆ later.visited) (List.Subset.refl _) ?_
  intro middle next kept stepped
  have grows := (follows_of_step registersNobody stepped).grows
  exact List.Subset.trans kept grows.1.subset

/-! ## Every chain ends -/

/-- The registered agents that can still be entered. -/
def remaining (roster : Roster) (m : Moment) : List String :=
  roster.names.filter fun name => !m.visited.contains name

omit registersNobody inText in
theorem length_remaining_le (subset : m.visited ⊆ m'.visited) :
    (remaining roster m').length ≤ (remaining roster m).length := by
  apply List.Sublist.length_le
  apply List.monotone_filter_right
  intro name unvisited
  simp only [Bool.not_eq_true', List.contains_eq_mem, decide_eq_false_iff_not] at unvisited ⊢
  exact fun visited => unvisited (subset visited)

omit registersNobody inText in
/-- Entering an agent leaves fewer that can be entered. -/
theorem length_remaining_lt {name : String} (registered : name ∈ roster.names)
    (unvisited : name ∉ m.visited) (visited : m'.visited = m.visited ++ [name]) :
    (remaining roster m').length < (remaining roster m).length := by
  have fewer : remaining roster m' =
      (remaining roster m).filter fun other => !decide (other = name) := by
    rw [remaining, remaining, List.filter_filter, visited]
    congr 1
    funext other
    simp [Bool.and_comm]
  rw [fewer]
  apply List.length_filter_lt_length_iff_exists.mpr
  exact ⟨name, by simp [remaining, registered, unvisited], by simp⟩

/-- What is at the head of a chain comes to its end: something is told to the
callers, or an agent is cancelled. -/
def Ends (machine : Machine) (prompt : String) (others : Nat → Session → Session) (m : Moment) : Prop :=
  ∃ last, Comes machine prompt others m last ∧
    ((∃ told, last.focus = .told told ∧ last.callers = m.callers) ∨
      ∃ name, last.focus = .working name .halt)

omit registersNobody inText in
theorem Ends.head (stepped : m.step machine prompt others = some m')
    (ends : Ends machine prompt others m') (sameCallers : m'.callers = m.callers) :
    Ends machine prompt others m := by
  rcases ends with ⟨last, comes, ending⟩
  exact ⟨last, comes.head stepped, sameCallers ▸ ending⟩

omit registersNobody inText in
theorem ends_of_told {told : Except Fault (Option String)} (isTold : m.focus = .told told) :
    Ends machine prompt others m :=
  ⟨m, .refl m, .inl ⟨told, isTold, rfl⟩⟩

omit registersNobody inText in
theorem ends_of_finish {name : String} {reply : Except Fault Reply}
    (stepped : m.step machine prompt others = some (m.finish name reply)) : Ends machine prompt others m := by
  rcases finish_eq m name reply with ⟨session, text, -, finished, -⟩
  rw [finished] at stepped
  exact (ends_of_told rfl).head stepped rfl

/-- The work of an agent ends if every agent that is asked meanwhile comes to
its end. -/
theorem ends_working {bound : Nat}
    (asking : ∀ m name task, Sound roster before m → m.focus = .asked name task →
      (remaining roster m).length ≤ bound → Ends machine prompt others m)
    {name : String} {behaviour : Behaviour} (sound : m.Sound roster before)
    (working : m.focus = .working name behaviour)
    (within : (remaining roster m).length ≤ bound) : Ends machine prompt others m := by
  have isWork : m.step machine prompt others = m.work others name behaviour := by rw [step, working]
  induction behaviour generalizing m with
  | done reply => exact ends_of_finish isWork
  | fail fault => exact ends_of_finish isWork
  | halt => exact ⟨m, .refl m, .inr ⟨name, working⟩⟩
  | pause lastWords next ih =>
      have nextSound := sound.step registersNobody inText isWork
      exact (ih () nextSound rfl within rfl).head isWork rfl
  | emit event next ih =>
      have nextSound := sound.step registersNobody inText isWork
      exact (ih nextSound rfl within rfl).head isWork rfl
  | note text next ih =>
      have nextSound := sound.step registersNobody inText isWork
      exact (ih nextSound rfl within rfl).head isWork rfl
  | count next ih =>
      have nextSound := sound.step registersNobody inText isWork
      exact (ih nextSound rfl within rfl).head isWork rfl
  | save key value next ih =>
      rw [work] at isWork
      split at isWork
      · have nextSound := sound.step registersNobody inText isWork
        exact (ih nextSound rfl within rfl).head isWork rfl
      · exact ends_of_finish isWork
  | unregister agent next ih =>
      have nextSound := sound.step registersNobody inText isWork
      exact (ih nextSound rfl within rfl).head isWork rfl
  | delegate agent task next ih =>
      rcases sound.working _ _ working with ⟨⟨text, rfl⟩, -⟩
      have askedSound := sound.step registersNobody inText isWork
      rcases asking _ agent text askedSound rfl within with ⟨last, comes, ending⟩
      rcases ending with ⟨told, isTold, lastCallers⟩ | halted
      · -- The innermost caller is the agent itself, and nobody it asked has been forgotten.
        have hearing : last.step machine prompt others =
            some (last.hear ⟨name, next⟩ m.callers told) := by
          rw [step, isTold]
          dsimp only
          rw [lastCallers]
        have lastSound := askedSound.comes registersNobody inText comes
        have hearsSound := lastSound.step registersNobody inText hearing
        cases told with
        | error fault =>
            rcases finish_eq { last with callers := m.callers } name (.error fault) with
              ⟨session, text, -, finished, -⟩
            rw [hear, finished] at hearing
            exact ⟨_, (comes.trans ((Comes.refl _).head hearing)).head isWork,
              .inl ⟨_, rfl, rfl⟩⟩
        | ok heard =>
            have fewer : (remaining roster last).length ≤ (remaining roster _).length :=
              length_remaining_le (comes.visited_subset registersNobody)
            obtain ⟨final, finalComes, finalEnding⟩ :=
              ih (heard.getD "") last.visited hearsSound rfl (Nat.le_trans fewer within) rfl
            exact ⟨final, (comes.trans (finalComes.head hearing)).head isWork, finalEnding⟩
      · exact ⟨last, comes.head isWork, .inr halted⟩

/-- An agent that is asked comes to its end.  The induction is on the number of
agents that can still be entered: entering one leaves fewer for all that it
asks. -/
theorem ends_asked {name task : String} (sound : m.Sound roster before)
    (asked : m.focus = .asked name task) : Ends machine prompt others m := by
  generalize bounded : (remaining roster m).length = bound
  induction bound using Nat.strongRecOn generalizing m name task with
  | ind bound ih =>
    have stepped : m.step machine prompt others = some (m.ask machine prompt name task) := by rw [step, asked]
    have nextSound := sound.step registersNobody inText stepped
    cases found : m.session.roster.find? name with
    | none =>
        rw [ask_missing machine prompt found] at stepped
        exact (ends_of_told rfl).head stepped rfl
    | some agent =>
        by_cases visited : name ∈ m.visited
        · rw [ask_visited machine prompt found visited] at stepped
          exact (ends_of_told rfl).head stepped rfl
        · cases uncopied : m.session.store.copyFault? machine (some name) with
          | some fault =>
              rw [ask_refused machine prompt found visited uncopied] at stepped
              exact (ends_of_told rfl).head stepped rfl
          | none =>
              rw [ask_started machine prompt found visited uncopied] at stepped nextSound
              have registered : name ∈ roster.names := by
                rw [← Roster.name_of_find? found]
                exact Roster.name_mem_names (sound.staff (List.mem_of_find?_eq_some found))
              refine (ends_working registersNobody inText ?_ nextSound rfl (Nat.le_refl _)).head
                stepped rfl
              intro later other text laterSound laterAsked within
              have fewer := Nat.lt_of_le_of_lt within (length_remaining_lt registered visited rfl)
              exact ih _ (bounded ▸ fewer) laterSound laterAsked rfl

end

/-! ## The process of a moment -/

/-- A delegation along a chain of at most the given depth below it. -/
def along (machine : Machine) (prompt : String) (depth : Nat) : Delegation :=
  fun visited name task => (dispatchWithinOn machine prompt depth visited name task).map overheard

/-- What is told of an agent when its work has come to a reply. -/
def concluded (name : String) (visited : List String) (reply : Except Fault Reply) :
    Process Session Telling :=
  (conclusion name visited reply).map spoken

/-- The process of an agent at work. -/
def carryOn (machine : Machine) (prompt : String) (depth : Nat) (name : String)
    (behaviour : Behaviour) (visited : List String) : Process Session Telling :=
  (perform name (along machine prompt depth) behaviour visited).bind fun (visited, reply) =>
    concluded name visited reply

/-- The process of a caller that has been told something. -/
def heed (machine : Machine) (prompt : String) (depth : Nat) (caller : Caller) :
    Telling → Process Session Telling
  | (visited, .ok text) =>
    carryOn machine prompt depth caller.name (caller.next (text.getD "") visited) visited
  | (visited, .error fault) => concluded caller.name visited (.error fault)

/-- An agent that delegates waits as a caller. -/
theorem carryOn_delegate (depth : Nat) (name agent task : String)
    (next : String → List String → Behaviour) (visited : List String) :
    carryOn machine prompt depth name (.delegate agent (.str task) next) visited =
      (dispatchWithinOn machine prompt depth visited agent (.str task)).bind
        (heed machine prompt depth ⟨name, next⟩) := by
  simp only [carryOn, perform, along, Process.map, Process.bind_assoc, Process.bind]
  congr 1
  funext telling
  rcases telling with ⟨visited, _ | text⟩ <;> rfl

/-- The process of callers that wait for what another process comes to. -/
def await (machine : Machine) (prompt : String) :
    Nat → List Caller → Process Session Telling → Process Session Telling
  | _, [], p => p
  | depth, caller :: callers, p =>
      await machine prompt (depth + 1) callers (p.bind (heed machine prompt depth caller))

/-- The process of a moment, for a chain with a limit to its depth. -/
def rest (machine : Machine) (prompt : String) (limit : Nat) (m : Moment) :
    Process Session Telling :=
  let depth := limit - m.callers.length
  await machine prompt depth m.callers <|
    match m.focus with
    | .asked name task => dispatchWithinOn machine prompt depth m.visited name (.str task)
    | .working name behaviour => carryOn machine prompt (depth - 1) name behaviour m.visited
    | .told told => .done (m.visited, told)

theorem await_act (depth : Nat) (callers : List Caller) (change : Session → Session)
    (next : Session → Process Session Telling) :
    await machine prompt depth callers (.act change next) =
      .act change fun s => await machine prompt depth callers (next s) := by
  induction callers generalizing depth next with
  | nil => rfl
  | cons caller callers ih => exact ih _ _

theorem await_pause (depth : Nat) (callers : List Caller) (onCancel : Session → Session)
    (next : Unit → Process Session Telling) :
    await machine prompt depth callers (.pause onCancel next) =
      .pause onCancel fun u => await machine prompt depth callers (next u) := by
  induction callers generalizing depth next with
  | nil => rfl
  | cons caller callers ih => exact ih _ _

theorem await_halted (depth : Nat) (callers : List Caller) :
    await machine prompt depth callers .halted = .halted := by
  induction callers generalizing depth with
  | nil => rfl
  | cons caller callers ih => exact ih _

/-- Callers wait for a process that never pauses as if it had been run before. -/
theorem runAmong_await_of_unpausing {p : Process Session Telling} (unpausing : p.Unpausing)
    {s after : Session} {telling : Telling} (ran : p.run s = (after, some telling))
    (depth : Nat) (callers : List Caller) (pauses : Nat) :
    (await machine prompt depth callers p).runAmong others pauses s =
      (await machine prompt depth callers (.done telling)).runAmong others pauses after := by
  induction p generalizing s with
  | done a =>
      obtain ⟨rfl, rfl⟩ := by simpa [Process.run] using ran
      rfl
  | halted => simp [Process.run] at ran
  | act change next ih =>
      rw [await_act, Process.runAmong]
      exact ih s (unpausing s) ran
  | pause onCancel next _ => exact unpausing.elim

theorem unpausing_conclusion (name : String) (visited : List String)
    (reply : Except Fault Reply) : (conclusion name visited reply).Unpausing := by
  have unpausing (o : Outcome) : (sayingOf name visited (.ok (visited, o))).Unpausing := by
    rw [sayingOf]
    split
    · trivial
    · exact fun _ => trivial
  rw [conclusion, conclude]
  split
  · next o _ => exact fun _ => unpausing o
  · exact fun _ => unpausing (.failWith _ _)

theorem unpausing_concluded (name : String) (visited : List String)
    (reply : Except Fault Reply) : (concluded name visited reply).Unpausing :=
  (unpausing_conclusion name visited reply).map spoken

theorem run_concluded {name : String} {visited : List String} {reply : Except Fault Reply}
    {s session : Session} {text : String}
    (ran : (conclusion name visited reply).run s = (session, some (visited, some text))) :
    (concluded name visited reply).run s = (session, some (visited, .ok (some text))) := by
  rw [concluded, Process.run_map, ran]
  rfl

/-- At every depth a dispatch is a step along the chain. -/
theorem exists_dispatchWithinOn_eq (machine : Machine) (prompt : String) (depth : Nat) :
    ∃ delegation, dispatchWithinOn machine prompt depth =
      dispatchStepOn machine delegation prompt := by
  cases depth with
  | zero => exact ⟨_, rfl⟩
  | succ depth => exact ⟨_, rfl⟩

/-- The process of an agent that is entered is that of the agent at work. -/
theorem executeTask_bind_sayingOf (depth : Nat) (name task : String) (context : Context)
    (visited : List String) {agent : Agent} {s : Session}
    (found : s.roster.find? name = some agent) (callersDepth : Nat) (callers : List Caller)
    (pauses : Nat) :
    (await machine prompt callersDepth callers
        (((executeTask (along machine prompt depth) name (.str task) context visited).bind
          (sayingOf name visited)).map spoken)).runAmong others pauses s =
      (await machine prompt callersDepth callers
        (carryOn machine prompt depth name (agent.run task context) visited)).runAmong others
          pauses (s.note .info .roster s!"Executing with agent {name}: {preview task}") := by
  obtain rfl := Roster.name_of_find? found
  rw [executeTask, execute, Process.map, Process.look]
  simp only [Process.map, Process.bind, await_act, Process.runAmong, found, runAgent,
    Process.change, id]
  simp only [Process.bind_assoc, Process.bind, carryOn, concluded, conclusion, Process.map]
  rfl

/-- Asking an agent is what a dispatch does first. -/
theorem runAmong_rest_ask {limit : Nat} {name task : String}
    (asked : m.focus = .asked name task)
    (within : (m.ask machine prompt name task).depth ≤ limit) :
    (rest machine prompt limit m).runAmong others m.pauses m.session =
      (rest machine prompt limit (m.ask machine prompt name task)).runAmong others
        (m.ask machine prompt name task).pauses (m.ask machine prompt name task).session := by
  rcases exists_dispatchWithinOn_eq machine prompt (limit - m.callers.length) with
    ⟨delegation, isStep⟩
  cases found : m.session.roster.find? name with
  | none =>
      have entry : m.session.entryFault? machine m.visited name = none := by
        simp [entryFault?, Roster.has, found]
      rw [ask_missing machine prompt found]
      simp only [rest, asked, isStep, dispatchStepOn, entry, dispatchStep, Process.look,
        Process.change, Process.map, Process.bind, await_act, Process.runAmong, Roster.has, found,
        Option.isSome, id, Bool.false_eq_true, if_false, spoken]
  | some agent =>
      by_cases visited : name ∈ m.visited
      · have contained : m.visited.contains name = true := by simpa using visited
        have entry : m.session.entryFault? machine m.visited name = none := by
          simp [entryFault?, visited]
        rw [ask_visited machine prompt found visited]
        simp only [rest, asked, isStep, dispatchStepOn, entry, dispatchStep, Process.look,
          Process.change, Process.map, Process.bind, await_act, Process.runAmong, Roster.has,
          found, Option.isSome, id, contained, if_true, spoken]
      · have notContained : m.visited.contains name = false := by simpa using visited
        have entry : m.session.entryFault? machine m.visited name =
            m.session.store.copyFault? machine (some name) := by
          simp [entryFault?, Roster.has, found, visited]
        cases uncopied : m.session.store.copyFault? machine (some name) with
        | some fault =>
            rw [uncopied] at entry
            rw [ask_refused machine prompt found visited uncopied]
            simp only [rest, asked, isStep, dispatchStepOn, entry, Process.look, await_act,
              Process.runAmong, id]
        | none =>
            -- One more agent can be entered, so the limit has not been met.
            rw [uncopied] at entry
            rw [ask_started machine prompt found visited uncopied] at within ⊢
            obtain ⟨depth, deeper⟩ : ∃ depth, limit - m.callers.length = depth + 1 := by
              rw [depth_of_working rfl] at within
              exact ⟨limit - m.callers.length - 1, by dsimp only at within; omega⟩
            simp only [rest, asked, deeper, dispatchWithinOn, dispatchStepOn, entry, dispatchStep,
              enter, Process.look, Process.map, Process.bind, await_act, Process.runAmong,
              Roster.has, found, Option.isSome, id, notContained, if_true, Bool.false_eq_true,
              if_false, Nat.add_sub_cancel]
            exact executeTask_bind_sayingOf depth name task _ _ found _ _ _

theorem runAmong_rest_finish {limit : Nat} {name : String} {behaviour : Behaviour}
    {reply : Except Fault Reply} (working : m.focus = .working name behaviour)
    (performed : ∀ depth, carryOn machine prompt depth name behaviour m.visited =
      concluded name m.visited reply) :
    (rest machine prompt limit m).runAmong others m.pauses m.session =
      (rest machine prompt limit (m.finish name reply)).runAmong others
        (m.finish name reply).pauses (m.finish name reply).session := by
  rcases finish_eq m name reply with ⟨session, text, ran, finished, -⟩
  rw [finished]
  simp only [rest, working, performed]
  exact runAmong_await_of_unpausing (unpausing_concluded name m.visited reply)
    (run_concluded ran) _ _ _

/-- A caller that is told something heeds it. -/
theorem runAmong_rest_hear {limit : Nat} {told : Except Fault (Option String)} {caller : Caller}
    {callers : List Caller} (isTold : m.focus = .told told)
    (waiting : m.callers = caller :: callers) (within : m.callers.length ≤ limit) :
    (rest machine prompt limit m).runAmong others m.pauses m.session =
      (rest machine prompt limit (m.hear caller callers told)).runAmong others
        (m.hear caller callers told).pauses (m.hear caller callers told).session := by
  have room : limit - callers.length = limit - (callers.length + 1) + 1 := by
    rw [waiting, List.length_cons] at within
    omega
  cases told with
  | ok text =>
      simp only [rest, isTold, waiting, List.length_cons, await, hear, room, Nat.add_sub_cancel]
      rfl
  | error fault =>
      rcases finish_eq { m with callers } caller.name (.error fault) with
        ⟨session, text, ran, finished, -⟩
      rw [hear, finished]
      simp only [rest, isTold, waiting, List.length_cons, await, room]
      exact runAmong_await_of_unpausing (unpausing_concluded caller.name m.visited _)
        (run_concluded ran) _ _ _

/-- A step of a chain is a part of its process, as long as the limit is kept. -/
theorem runAmong_rest_step {limit : Nat} (within : m.depth ≤ limit) (within' : m'.depth ≤ limit)
    (stepped : m.step machine prompt others = some m') :
    (rest machine prompt limit m).runAmong others m.pauses m.session =
      (rest machine prompt limit m').runAmong others m'.pauses m'.session := by
  cases focus : m.focus with
  | asked name task =>
      obtain rfl : m.ask machine prompt name task = m' := by simpa [step, focus] using stepped
      exact runAmong_rest_ask focus within'
  | told told =>
      cases waiting : m.callers with
      | nil => simp [step, focus, waiting] at stepped
      | cons caller callers =>
          rw [step, focus] at stepped
          dsimp only at stepped
          rw [waiting] at stepped
          obtain rfl := Option.some.inj stepped
          exact runAmong_rest_hear focus waiting (Nat.le_trans (length_callers_le_depth m) within)
  | working name behaviour =>
      rw [step, focus] at stepped
      dsimp only at stepped
      cases behaviour with
      | done reply =>
          obtain rfl := Option.some.inj stepped
          exact runAmong_rest_finish focus fun _ => rfl
      | fail fault =>
          obtain rfl := Option.some.inj stepped
          exact runAmong_rest_finish focus fun _ => rfl
      | halt => simp [work] at stepped
      | pause lastWords next =>
          obtain rfl := Option.some.inj stepped
          simp only [rest, focus, goOn, carryOn, perform, Process.bind, await_pause,
            Process.runAmong]
      | emit event next =>
          obtain rfl := Option.some.inj stepped
          simp only [rest, focus, goOn, carryOn, perform, Process.change, Process.bind,
            await_act, Process.runAmong]
      | note text next =>
          obtain rfl := Option.some.inj stepped
          simp only [rest, focus, goOn, carryOn, perform, Process.change, Process.bind,
            await_act, Process.runAmong]
      | count next =>
          obtain rfl := Option.some.inj stepped
          simp only [rest, focus, goOn, carryOn, perform, Process.change, Process.bind,
            await_act, Process.runAmong]
      | save key value next =>
          rw [work] at stepped
          split at stepped
          · next named =>
            obtain rfl := Option.some.inj stepped
            simp only [rest, focus, goOn, carryOn, perform, named, if_true, Process.change,
              Process.bind, await_act, Process.runAmong]
          · next unnamed =>
            obtain rfl := Option.some.inj stepped
            apply runAmong_rest_finish focus
            intro depth
            simp only [carryOn, perform, unnamed]
            rfl
      | unregister agent next =>
          obtain rfl := Option.some.inj stepped
          simp only [rest, focus, goOn, carryOn, perform, Process.change, Process.bind,
            await_act, Process.runAmong]
      | delegate agent task next =>
          cases task with
          | str task =>
              obtain rfl := Option.some.inj stepped
              rw [depth_of_working focus] at within
              obtain ⟨depth, room⟩ : ∃ depth, limit - m.callers.length = depth + 1 :=
                ⟨limit - m.callers.length - 1, by omega⟩
              have room' : limit - (m.callers.length + 1) = depth := by omega
              simp only [rest, focus, room, room', List.length_cons, await, Nat.add_sub_cancel,
                carryOn_delegate]
          | _ => simp [work] at stepped

/-! ## The guard -/

/-- Every moment of a run is reached by its first steps, and the end of the run
is reached from it. -/
theorem exists_after_of_le {count : Nat} (reached : after machine prompt others count m = some last)
    {k : Nat} (early : k ≤ count) :
    ∃ middle, after machine prompt others k m = some middle ∧ Comes machine prompt others middle last := by
  rcases Nat.exists_eq_add_of_le early with ⟨more, rfl⟩
  rw [after_add] at reached
  rcases Option.bind_eq_some_iff.mp reached with ⟨middle, first, rest⟩
  exact ⟨middle, first, more, rest⟩

/-- No more agents were started than there are registered names. -/
theorem Sound.length_started_le (sound : m.Sound roster before) :
    m.started.length ≤ roster.names.dedup.length := by
  have nodup : m.started.Nodup := (List.nodup_append.mp sound.entered.nodup).1
  apply List.Nodup.length_le_of_subset nodup
  intro name started
  exact List.mem_dedup.mpr (sound.entered.registered (List.mem_append_left _ started))

/-- The agents of a roster that has each name once are as many as its names. -/
theorem length_dedup_names_le (roster : Roster) : roster.names.dedup.length ≤ roster.size := by
  have := (List.dedup_sublist roster.names).length_le
  rwa [Roster.names, List.length_map] at this

theorem Sound.depth_le (sound : m.Sound roster before) :
    m.depth ≤ roster.names.dedup.length :=
  Nat.le_trans sound.depth sound.length_started_le

/-- The process of a chain's first moment goes through every later one. -/
theorem runAmong_rest_comes (registersNobody : RegistersNobody others)
    (inText : ∀ agent ∈ roster.agents, agent.AsksInText) (sound : m.Sound roster before)
    (comes : Comes machine prompt others m last) :
    (rest machine prompt roster.size m).runAmong others m.pauses m.session =
      (rest machine prompt roster.size last).runAmong others last.pauses last.session := by
  have within {later : Moment} (laterSound : later.Sound roster before) :
      later.depth ≤ roster.size :=
    Nat.le_trans laterSound.depth_le (length_dedup_names_le roster)
  refine (comes.preserves (P := fun later => later.Sound roster before ∧
    (rest machine prompt roster.size m).runAmong others m.pauses m.session =
      (rest machine prompt roster.size later).runAmong others later.pauses later.session)
    ⟨sound, rfl⟩ ?_).2
  rintro middle next ⟨middleSound, same⟩ stepped
  have nextSound := middleSound.step registersNobody inText stepped
  exact ⟨nextSound, same.trans
    (runAmong_rest_step (within middleSound) (within nextSound) stepped)⟩

/-- What a step does to the visited and the started agents.  Agents that are
missing and agents that were visited before are not started, and neither are those whose
entries cannot be copied, though these have been visited then. -/
structure Guarded (machine : Machine) (m m' : Moment) : Prop where
  visitedGrows : m.visited <+: m'.visited
  missing : ∀ name task, m.focus = .asked name task → m.session.roster.has name = false →
    m'.focus = .told (.ok none) ∧ m'.visited = m.visited ∧ m'.started = m.started ∧
      m'.refused = m.refused
  circular : ∀ name task, m.focus = .asked name task → m.session.roster.has name = true →
    name ∈ m.visited →
      m'.focus = .told (.ok (some "")) ∧ m'.visited = m.visited ∧ m'.started = m.started ∧
        m'.refused = m.refused
  refused : ∀ name task fault, m.focus = .asked name task →
    m.session.roster.has name = true → name ∉ m.visited →
    m.session.store.copyFault? machine (some name) = some fault →
      m'.focus = .told (.error fault) ∧ m'.visited = m.visited ++ [name] ∧
        m'.started = m.started ∧ m'.refused = m.refused ++ [name]
  entered : ∀ name task, m.focus = .asked name task → m.session.roster.has name = true →
    name ∉ m.visited → m.session.store.copyFault? machine (some name) = none →
      (∃ behaviour, m'.focus = .working name behaviour) ∧
        m'.visited = m.visited ++ [name] ∧ m'.started = m.started ++ [name] ∧
        m'.refused = m.refused

theorem guarded_of_step (registersNobody : RegistersNobody others)
    (stepped : m.step machine prompt others = some m') : Guarded machine m m' := by
  have isAsked {name task : String} (asked : m.focus = .asked name task) :
      m.ask machine prompt name task = m' := by simpa [step, asked] using stepped
  exact {
    visitedGrows := (follows_of_step registersNobody stepped).grows.1
    missing := by
      intro name task asked missing
      obtain rfl := isAsked asked
      rw [ask_missing machine prompt (by simpa [Roster.has] using missing)]
      exact ⟨rfl, rfl, rfl, rfl⟩
    circular := by
      intro name task asked registered visited
      obtain rfl := isAsked asked
      rcases Option.isSome_iff_exists.mp registered with ⟨agent, found⟩
      rw [ask_visited machine prompt found visited]
      exact ⟨rfl, rfl, rfl, rfl⟩
    refused := by
      intro name task fault asked registered unvisited uncopied
      obtain rfl := isAsked asked
      rcases Option.isSome_iff_exists.mp registered with ⟨agent, found⟩
      rw [ask_refused machine prompt found unvisited uncopied]
      exact ⟨rfl, rfl, rfl, rfl⟩
    entered := by
      intro name task asked registered unvisited copied
      obtain rfl := isAsked asked
      rcases Option.isSome_iff_exists.mp registered with ⟨agent, found⟩
      rw [ask_started machine prompt found unvisited copied]
      exact ⟨⟨_, rfl⟩, rfl, rfl, rfl⟩ }

end Moment

/-- What is told of an agent is a fault exactly when the agent could not be entered. -/
theorem told_of_dispatchOn {others : Nat → Session → Session} {machine : Machine}
    {prompt : String} {before visited : List String} {name task : String} {s after : Session}
    {told : Except Fault (Option String)}
    (ended : (dispatchOn machine prompt before name (.str task)).runAmong others 0 s =
      (after, some (visited, told))) (fault : Fault) :
    told = .error fault ↔ s.entryFault? machine before name = some fault := by
  rcases Moment.exists_dispatchWithinOn_eq machine prompt s.roster.size with
    ⟨delegation, isStep⟩
  simp only [dispatchOn, isStep, dispatchStepOn, Process.look, Process.runAmong, id] at ended
  cases entry : s.entryFault? machine before name with
  | some found =>
      rw [entry] at ended
      obtain ⟨-, -, rfl⟩ := by simpa [Process.runAmong] using ended
      rw [Except.error.injEq, Option.some.injEq]
  | none =>
      rw [entry] at ended
      dsimp only at ended
      rw [Process.runAmong_map] at ended
      have isSpoken := congrArg Prod.snd ended
      rcases Option.map_eq_some_iff.mp isSpoken with ⟨saying, -, isTold⟩
      obtain rfl : _ = told := congrArg Prod.snd isTold
      exact iff_of_false (fun isFault => nomatch isFault) (fun absent => nomatch absent)

open Moment in
/-- The cycle guard.  Whoever asks whom, a dispatch along a chain comes to its
end: something is said, or an agent is cancelled, or the dispatch fails, which it does
exactly when the entries of its own agent cannot be copied.  At every moment of the
chain the visited agents are those visited before, those whose run was started and
those whose entries could not be copied.  No agent is entered twice, and no more
agents wait or work than there are registered names. -/
theorem dispatch_guarded {others : Nat → Session → Session}
    (registersNobody : RegistersNobody others) {s : Session}
    (inText : ∀ agent ∈ s.roster.agents, agent.AsksInText) (machine : Machine)
    (prompt : String) (before : List String) (name task : String) :
    ∃ count last,
      after machine prompt others count (first s before name task) = some last ∧
      last.step machine prompt others = none ∧
      ((∃ told, last.focus = .told told ∧ last.callers = [] ∧
          (dispatchOn machine prompt before name (.str task)).runAmong others 0 s =
            (last.session, some (last.visited, told)) ∧
          ∀ fault, told = .error fault ↔ s.entryFault? machine before name = some fault) ∨
        ∃ agent, last.focus = .working agent .halt ∧
          (dispatchOn machine prompt before name (.str task)).runAmong others 0 s =
            (last.session, none)) ∧
      ∀ k ≤ count, ∃ m,
        after machine prompt others k (first s before name task) = some m ∧
        m.visited.Perm (before ++ (m.started ++ m.refused)) ∧
        (m.started ++ m.refused).Nodup ∧
        (∀ agent ∈ m.started ++ m.refused, agent ∉ before ∧ agent ∈ s.roster.names) ∧
        m.depth ≤ s.roster.names.dedup.length ∧
        ∀ m', m.step machine prompt others = some m' → Guarded machine m m' := by
  have sound := sound_first s before name task
  have ends : Ends machine prompt others (first s before name task) :=
    ends_asked registersNobody inText sound rfl
  rcases ends with ⟨last, comes, ending⟩
  have through := runAmong_rest_comes registersNobody inText sound comes
  have isFirst : (dispatchOn machine prompt before name (.str task)).runAmong others 0 s =
      (rest machine prompt s.roster.size (first s before name task)).runAmong others 0 s := rfl
  rcases comes with ⟨count, reached⟩
  refine ⟨count, last, reached, ?_, ?_, ?_⟩
  · rcases ending with ⟨told, isTold, noCallers⟩ | ⟨agent, halted⟩
    · rw [step, isTold]
      dsimp only
      rw [noCallers]
      rfl
    · rw [step, halted]
      rfl
  · rcases ending with ⟨told, isTold, noCallers⟩ | ⟨agent, halted⟩
    · have ended : (dispatchOn machine prompt before name (.str task)).runAmong others 0 s =
          (last.session, some (last.visited, told)) := by
        rw [isFirst]
        refine through.trans ?_
        rw [rest, isTold, noCallers]
        rfl
      exact .inl ⟨told, isTold, noCallers, ended, told_of_dispatchOn ended⟩
    · refine .inr ⟨agent, halted, ?_⟩
      rw [isFirst]
      refine through.trans ?_
      rw [rest, halted]
      exact congrArg (fun p => Process.runAmong others p _ _) (await_halted _ _)
  · intro k early
    rcases exists_after_of_le reached early with ⟨m, reachedEarly, -⟩
    have mSound := sound.comes registersNobody inText ⟨k, reachedEarly⟩
    refine ⟨m, reachedEarly, mSound.entered.perm, mSound.entered.nodup, ?_, mSound.depth_le, ?_⟩
    · intro agent entered
      exact ⟨mSound.entered.unvisited agent entered, mSound.entered.registered entered⟩
    · intro m' stepped
      exact guarded_of_step registersNobody stepped

/-! ## Agents in a ring -/

/-- An agent that asks the next one, itself and a missing one, and tells what it
heard. -/
def inRing (name next : String) : Agent where
  name := name
  capabilities := []
  kind := none
  run := fun input _ => .delegate next (.str input) fun heard _ => .pause none fun _ =>
    .delegate name (.str input) fun nothing _ => .delegate "nobody" (.str input) fun silence _ =>
      .done (.text (name ++ "<" ++ heard ++ nothing ++ silence ++ ">"))
  afterSubtask := none
  start := none
  stop := none

theorem asksInText_inRing (name next : String) : (inRing name next).AsksInText :=
  fun input _ _ _ => ⟨⟨input, rfl⟩, fun _ _ => ⟨⟨input, rfl⟩, fun _ _ =>
    ⟨⟨input, rfl⟩, fun _ _ => trivial⟩⟩⟩

/-- A session with three agents in a ring. -/
def ringSession : Session where
  clock := .zero
  throttle := .fresh .zero
  store := .empty ⟨3, 3, by decide, by decide⟩
  archive := .none
  disk := .empty
  roster := ⟨[inRing "a" "b", inRing "b" "c", inRing "c" "a"]⟩
  runs := []
  events := []
  journal := []

/-- Others give up the name of an agent in the ring as soon as they can. -/
def givingUp : Nat → Session → Session := fun _ s => (s.unregister "b").1

/-- The agents of a ring ask each other, while one of them is given up. -/
theorem dispatch_guarded_in_ring :
    Moment.RegistersNobody givingUp ∧
      (∀ agent ∈ ringSession.roster.agents, agent.AsksInText) ∧
      ((dispatchOn .standard "p" [] "a" (.str "go")).runAmong givingUp 0 ringSession).2.map
          (fun telling => (telling.1, telling.2.toOption)) =
        some (["a", "b", "c"], some (some "a<b<c<>>>")) ∧
      ∃ count last,
        Moment.after .standard "p" givingUp count (.first ringSession [] "a" "go") = some last ∧
          last.step .standard "p" givingUp = none := by
  have registersNobody : Moment.RegistersNobody givingUp :=
    fun _ s => Moment.agents_unregister_subset s "b"
  have inText : ∀ agent ∈ ringSession.roster.agents, agent.AsksInText := by
    intro agent agentMem
    rcases List.mem_cons.mp agentMem with rfl | agentMem
    · exact asksInText_inRing "a" "b"
    · rcases List.mem_cons.mp agentMem with rfl | agentMem
      · exact asksInText_inRing "b" "c"
      · obtain rfl := List.mem_singleton.mp agentMem
        exact asksInText_inRing "c" "a"
  refine ⟨registersNobody, inText, by decide +kernel, ?_⟩
  obtain ⟨count, last, reached, ended, -⟩ :=
    dispatch_guarded registersNobody inText .standard "p" [] "a" "go"
  exact ⟨count, last, reached, ended⟩

/-- The ring with a lock among the entries of its first agent. -/
def lockedSession : Session := ringSession.write (some "a") (some "guard") (.sealed "lock")

/-- A dispatch to the agent with the lock fails: the agent has been visited, and no run was
started. -/
theorem dispatch_fails_with_lock :
    (Moment.after .standard "p" givingUp 1 (.first lockedSession [] "a" "go")).map
        (fun m => (m.visited, m.started)) = some (["a"], []) ∧
      ((dispatchOn .standard "p" [] "a" (.str "go")).runAmong givingUp 0 lockedSession).2 =
        some (["a"], .error (.badKind "cannot pickle '_thread.lock' object")) :=
  ⟨rfl, rfl⟩

end Session

end PromptDispatch
