import Mathlib.Data.List.Induction
import Mathlib.Data.List.Nodup
import PromptDispatch.Session.Setup

/-!
# Registering and giving up names

A run registers agents and gives up names, one or all, and tells what each call came to.
A registration is in force until its name is given up or registered again, which cannot
happen while it is in force.  After every run the roster shows exactly the agents whose
registration is in force, in the order of these registrations, and everything that can be
asked of it is told by that list.
-/

namespace PromptDispatch

/-- What is asked of a roster. -/
inductive Enrolment where
  | register (agent : Agent)
  | unregister (name : String)
  | clear

namespace Enrolment

/-- What an enrolment came to. -/
inductive Record where
  | registered (agent : Agent)
  | refused (agent : Agent) (fault : Fault)
  | unregistered (name : String)
  | cleared

/-- What was asked. -/
def Record.asked : Record → Enrolment
  | registered agent => .register agent
  | refused agent _ => .register agent
  | unregistered name => .unregister name
  | cleared => .clear

/-- The agent that was registered. -/
def Record.agent? : Record → Option Agent
  | registered agent => some agent
  | _ => none

/-- Whether the registration of a name before this is not in force after it. -/
def Record.ends (name : String) : Record → Bool
  | registered agent => agent.name = name
  | refused _ _ => false
  | unregistered own => own = name
  | cleared => true

/-- The agents whose registration is in force, in the order of registration. -/
def inForce : List Record → List Agent
  | [] => []
  | record :: later =>
    (record.agent?.filter fun agent => !later.any (Record.ends agent.name)).toList ++
      inForce later

end Enrolment

open Enrolment (Record inForce)

namespace Session

/-- Performs an enrolment. -/
def enrol (s : Session) : Enrolment → Session × Record
  | .register agent =>
    match s.register agent with
    | .ok after => (after, .registered agent)
    | .error fault => (s, .refused agent fault)
  | .unregister name => ((s.unregister name).1, .unregistered name)
  | .clear => (s.clearRoster, .cleared)

/-- Performs enrolments one after another. -/
def enrolAll (s : Session) : List Enrolment → Session × List Record
  | [] => (s, [])
  | call :: calls =>
    ((enrolAll (s.enrol call).1 calls).1, (s.enrol call).2 :: (enrolAll (s.enrol call).1 calls).2)

end Session

/-! ## Registrations in force -/

namespace Enrolment

theorem inForce_concat (records : List Record) (record : Record) :
    inForce (records ++ [record]) =
      ((inForce records).filter fun agent => !record.ends agent.name) ++
        record.agent?.toList := by
  induction records with
  | nil => cases record <;> simp [inForce, Record.agent?]
  | cons first records ih =>
      rw [List.cons_append, inForce, ih, inForce, List.filter_append, List.append_assoc]
      congr 1
      cases first.agent? with
      | none => rfl
      | some agent =>
          rw [Option.filter_some, Option.filter_some, List.any_append, List.any_cons, List.any_nil]
          cases records.any (Record.ends agent.name) <;>
            cases ends : record.ends agent.name <;> simp [ends]

theorem ends_of_agent? {record : Record} {agent : Agent} (registered : record.agent? = some agent) :
    record.ends agent.name = true := by
  cases record <;> cases registered
  simp [Record.ends]

/-- No two registrations of one name are in force. -/
theorem nodup_inForce (records : List Record) : ((inForce records).map (·.name)).Nodup := by
  induction records using List.reverseRecOn with
  | nil => exact List.nodup_nil
  | append_singleton records record ih =>
      rw [inForce_concat, List.map_append]
      refine (ih.sublist (List.filter_sublist.map _)).append (by cases record.agent? <;> simp) ?_
      intro name kept isNew
      obtain ⟨agent, mem, rfl⟩ := List.mem_map.mp kept
      obtain ⟨other, registered, sameName⟩ := List.mem_map.mp isNew
      have ends := ends_of_agent? (Option.mem_toList.mp registered)
      rw [sameName] at ends
      simp [ends] at mem

end Enrolment

namespace Roster

variable {roster : Roster}

theorem has_iff (roster : Roster) (name : String) :
    roster.has name = true ↔ name ∈ roster.names := by
  simp [has, find?, names]

section

variable (distinct : roster.names.Nodup)
include distinct

/-- An agent is found by its name. -/
theorem find?_eq_some_iff (name : String) (agent : Agent) :
    roster.find? name = some agent ↔ agent ∈ roster.agents ∧ agent.name = name := by
  constructor
  · intro found
    exact ⟨List.mem_of_find?_eq_some found, by simpa using List.find?_some found⟩
  · rintro ⟨mem, rfl⟩
    have named : agent.name ∈ roster.names := List.mem_map_of_mem mem
    rw [← has_iff, has, Option.isSome_iff_exists] at named
    obtain ⟨other, found⟩ := named
    have sameName : other.name = agent.name := by simpa using List.find?_some found
    rw [found, List.inj_on_of_nodup_map distinct (List.mem_of_find?_eq_some found) mem sameName]

theorem name_mem_withCapabilities_iff {agent : Agent} (mem : agent ∈ roster.agents)
    (wanted : List String) :
    agent.name ∈ (roster.withCapabilities wanted).map (·.name) ↔
      wanted.all agent.capabilities.contains = true := by
  constructor
  · intro named
    obtain ⟨other, otherMem, sameName⟩ := List.mem_map.mp named
    obtain ⟨registered, able⟩ := List.mem_filter.mp otherMem
    rwa [List.inj_on_of_nodup_map distinct registered mem sameName] at able
  · intro able
    exact List.mem_map_of_mem (List.mem_filter.mpr ⟨mem, able⟩)

/-- Who has all capabilities of two sets is who has those of the one and those of the
other. -/
theorem withCapabilities_union {first second both : List String}
    (union : ∀ capability, capability ∈ both ↔ capability ∈ first ∨ capability ∈ second) :
    roster.withCapabilities both = roster.agents.filter fun agent =>
      decide (agent.name ∈ (roster.withCapabilities first).map (·.name) ∧
        agent.name ∈ (roster.withCapabilities second).map (·.name)) := by
  rw [withCapabilities]
  apply List.filter_congr
  intro agent mem
  rw [Bool.eq_iff_iff, decide_eq_true_iff, name_mem_withCapabilities_iff distinct mem,
    name_mem_withCapabilities_iff distinct mem]
  simp only [List.all_eq_true, union, or_imp, forall_and]

end

end Roster

/-! ## Runs -/

namespace Session

section

variable (s : Session)

/-- A name that is taken is not registered again. -/
theorem register_of_has {agent : Agent} (taken : s.roster.has agent.name = true) :
    s.register agent = .error (.duplicateAgent agent.name) := by
  rw [register, Roster.register, if_pos taken]

/-- An agent whose name is free comes last. -/
theorem register_of_not_has {agent : Agent} (free : s.roster.has agent.name = false) :
    ∃ after, s.register agent = .ok after ∧
      after.roster.agents = s.roster.agents ++ [agent] := by
  rw [register, Roster.register, free]
  exact ⟨_, rfl, rfl⟩

theorem agents_unregister (name : String) :
    (s.unregister name).1.roster.agents =
      s.roster.agents.filter fun agent => !decide (name = agent.name) := by
  have sameFilter : (s.roster.unregister name).agents =
      s.roster.agents.filter fun agent => !decide (name = agent.name) := by
    apply List.filter_congr
    intro agent _
    rw [decide_not, decide_eq_decide.mpr eq_comm]
  rw [unregister]
  split
  · exact sameFilter
  · next missing =>
    rw [Roster.has_iff, Roster.names, List.mem_map] at missing
    rw [eq_comm, List.filter_eq_self]
    intro agent mem
    rw [Bool.not_eq_true', decide_eq_false_iff_not]
    rintro rfl
    exact missing ⟨agent, mem, rfl⟩

/-- What an enrolment does to the roster is told by what it came to. -/
theorem agents_enrol (call : Enrolment) :
    (s.enrol call).1.roster.agents =
      (s.roster.agents.filter fun agent => !(s.enrol call).2.ends agent.name) ++
        (s.enrol call).2.agent?.toList := by
  cases call with
  | register agent =>
      cases taken : s.roster.has agent.name with
      | true =>
          rw [enrol, s.register_of_has taken]
          simp [Record.ends, Record.agent?]
      | false =>
          obtain ⟨after, registered, agents⟩ := s.register_of_not_has taken
          rw [enrol, registered]
          rw [← Bool.not_eq_true, Roster.has_iff, Roster.names, List.mem_map] at taken
          -- A registration ends earlier ones of its name, and there is none.
          have others : (s.roster.agents.filter fun other =>
              !(Record.registered agent).ends other.name) = s.roster.agents := by
            rw [List.filter_eq_self]
            intro other mem
            rw [Record.ends, Bool.not_eq_true', decide_eq_false_iff_not]
            exact fun sameName => taken ⟨other, mem, sameName.symm⟩
          rw [others, agents]
          rfl
  | unregister name => exact (s.agents_unregister name).trans (List.append_nil _).symm
  | clear =>
      change [] = (s.roster.agents.filter fun _ => false) ++ []
      rw [List.append_nil, List.filter_false]

theorem asked_enrol (call : Enrolment) : (s.enrol call).2.asked = call := by
  cases call with
  | register agent =>
      rw [enrol]
      cases s.register agent <;> rfl
  | unregister name => rfl
  | clear => rfl

theorem enrolAll_concat (calls : List Enrolment) (call : Enrolment) :
    s.enrolAll (calls ++ [call]) =
      (((s.enrolAll calls).1.enrol call).1,
        (s.enrolAll calls).2 ++ [((s.enrolAll calls).1.enrol call).2]) := by
  induction calls generalizing s with
  | nil => rfl
  | cons first calls ih => rw [List.cons_append, enrolAll, ih, enrolAll, List.cons_append]

theorem asked_enrolAll (calls : List Enrolment) :
    (s.enrolAll calls).2.map Record.asked = calls := by
  induction calls generalizing s with
  | nil => rfl
  | cons call calls ih => rw [enrolAll, List.map_cons, asked_enrol, ih]

end

/-- After a run the roster holds the agents whose registration is in force. -/
theorem agents_enrolAll {start : Session} (fresh : start.roster = .empty)
    (calls : List Enrolment) :
    (start.enrolAll calls).1.roster.agents = inForce (start.enrolAll calls).2 := by
  induction calls using List.reverseRecOn with
  | nil =>
      rw [enrolAll, fresh]
      rfl
  | append_singleton calls call ih =>
      rw [enrolAll_concat, agents_enrol, ih, Enrolment.inForce_concat]

/-- What a session shows of its roster after enrolments. -/
structure Enrolled (calls : List Enrolment) (records : List Record) (s : Session) : Prop where
  /-- every enrolment is answered, in order -/
  asked : records.map Record.asked = calls
  /-- the agents are those whose registration is in force, in its order -/
  agents : s.roster.agents = inForce records
  /-- their names are told apart -/
  distinct : s.roster.names.Nodup
  /-- an agent is found by its name -/
  found : ∀ name agent,
    s.roster.find? name = some agent ↔ agent ∈ s.roster.agents ∧ agent.name = name
  /-- the names are those of the agents -/
  has : ∀ name, s.roster.has name = true ↔ name ∈ s.roster.names
  /-- there are as many of them -/
  size : s.roster.size = s.roster.names.length
  /-- a name that is taken is refused, and nothing changes -/
  refuses : ∀ agent, agent.name ∈ s.roster.names →
    s.enrol (.register agent) = (s, .refused agent (.duplicateAgent agent.name))
  /-- an agent whose name is free comes last -/
  registers : ∀ agent, agent.name ∉ s.roster.names →
    (s.enrol (.register agent)).2 = .registered agent ∧
      (s.enrol (.register agent)).1.roster.agents = s.roster.agents ++ [agent]
  /-- for a union of capabilities those remain that are found for both sets -/
  union : ∀ first second both : List String,
    (∀ capability, capability ∈ both ↔ capability ∈ first ∨ capability ∈ second) →
      s.roster.withCapabilities both = s.roster.agents.filter fun agent =>
        decide (agent.name ∈ (s.roster.withCapabilities first).map (·.name) ∧
          agent.name ∈ (s.roster.withCapabilities second).map (·.name))

/-- Over every run from an empty roster, the roster is told by the registrations that are
in force. -/
theorem enrolled_enrolAll {start : Session} (fresh : start.roster = .empty)
    (calls : List Enrolment) :
    Enrolled calls (start.enrolAll calls).2 (start.enrolAll calls).1 := by
  have agents := agents_enrolAll fresh calls
  have distinct : (start.enrolAll calls).1.roster.names.Nodup := by
    rw [Roster.names, agents]
    exact Enrolment.nodup_inForce _
  refine {
    asked := asked_enrolAll start calls
    agents
    distinct
    found := Roster.find?_eq_some_iff distinct
    has := Roster.has_iff _
    size := (List.length_map _).symm
    refuses := ?_
    registers := ?_
    union := fun _ _ _ union => Roster.withCapabilities_union distinct union }
  · intro agent taken
    rw [enrol, register_of_has _ ((Roster.has_iff _ _).mpr taken)]
  · intro agent free
    rw [← Roster.has_iff, Bool.not_eq_true] at free
    obtain ⟨after, registered, last⟩ := register_of_not_has _ free
    rw [enrol, registered]
    exact ⟨rfl, last⟩

/-- An agent that says nothing. -/
def newcomer (name : String) (capabilities : List String) : Agent where
  name := name
  capabilities := capabilities
  kind := none
  run := fun _ _ => .done (.text "")
  afterSubtask := none
  start := none
  stop := none

/-- A name that is refused while it is taken and registered again once it was given up. -/
def comings : List Enrolment :=
  [.register (newcomer "coder" ["write"]), .register (newcomer "tester" ["read", "run"]),
    .register (newcomer "coder" []), .unregister "coder", .unregister "ghost",
    .register (newcomer "coder" ["read", "write"])]

/-- A session in which nobody is registered yet. -/
def vacant : Session := .fresh (.empty .standard) .none .empty .zero .zero

/-- The agent that was registered again comes last. -/
theorem enrolled_comings :
    vacant.roster = .empty ∧
      (vacant.enrolAll comings).1.roster.names = ["tester", "coder"] ∧
      ((vacant.enrolAll comings).1.roster.withCapabilities ["write", "read"]).map (·.name) =
        ["coder"] ∧
      Enrolled comings (vacant.enrolAll comings).2 (vacant.enrolAll comings).1 :=
  ⟨rfl, by decide, by decide, enrolled_enrolAll rfl comings⟩

end Session

end PromptDispatch
