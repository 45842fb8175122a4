import Mathlib.Data.List.Basic
import PromptDispatch.Pattern.Matcher

/-!
# What a pattern covers

A plain node looks at nothing but the characters that it takes, so it covers certain texts
whatever stands around them.  Matching it at a spot and going on with a continuation
succeeds exactly when the text from there on begins with one that the node covers and the
continuation succeeds behind it.  The order in which the ways of a node are tried, and the
bound on the rounds of a repetition, therefore cost no match.
-/

namespace PromptDispatch.Pattern

/-! ## Plain nodes -/

/-- A node for one character. -/
def Node.IsSingle : Node → Prop
  | .char _ | .notChar _ | .set _ _ | .any => True
  | _ => False

/-- A node that looks at nothing but the characters that it takes, and repeats single
characters only. -/
def Node.IsPlain : Node → Prop
  | .seq a b | .alt a b => a.IsPlain ∧ b.IsPlain
  | .rounds least most greed body =>
      greed = .greedy ∧ body.IsSingle ∧ ∀ bound ∈ most, least ≤ bound
  | .empty => True
  | node => node.IsSingle

/-- A text of one character of a kind. -/
def IsOne (accepts : Char → Bool) (taken : List Char) : Prop :=
  ∃ c, taken = [c] ∧ accepts c = true

/-- The texts that a plain node covers. -/
def Node.Covers (flags : Flags) : Node → List Char → Prop
  | .empty, taken => taken = []
  | .char code, taken => IsOne (matchesChar flags code) taken
  | .notChar code, taken => IsOne (!matchesChar flags code ·) taken
  | .set negated items, taken => IsOne (matchesSet flags negated items) taken
  | .any, taken => IsOne (fun c => flags.dotAll || c != '\n') taken
  | .seq a b, taken =>
      ∃ first second, taken = first ++ second ∧ a.Covers flags first ∧ b.Covers flags second
  | .alt a b, taken => a.Covers flags taken ∨ b.Covers flags taken
  | .rounds least most _ body, taken =>
      least ≤ taken.length ∧ (∀ bound ∈ most, taken.length ≤ bound) ∧
        ∀ c ∈ taken, body.Covers flags [c]
  | _, _ => False

/-! ## Nodes one after another, and nodes of which one has to match -/

namespace Node

theorem isPlain_ofList {nodes : List Node} (plain : ∀ node ∈ nodes, node.IsPlain) :
    (ofList nodes).IsPlain := by
  induction nodes with
  | nil => trivial
  | cons node nodes ih =>
      rw [List.forall_mem_cons] at plain
      cases nodes with
      | nil => exact plain.1
      | cons next nodes => exact ⟨plain.1, ih plain.2⟩

theorem isPlain_alternatives {nodes : List Node} (plain : ∀ node ∈ nodes, node.IsPlain) :
    (alternatives nodes).IsPlain := by
  induction nodes with
  | nil => trivial
  | cons node nodes ih =>
      rw [List.forall_mem_cons] at plain
      cases nodes with
      | nil => exact plain.1
      | cons next nodes => exact ⟨plain.1, ih plain.2⟩

theorem covers_ofList_cons_iff {flags : Flags} {node : Node} {nodes : List Node}
    {taken : List Char} :
    (ofList (node :: nodes)).Covers flags taken ↔ ∃ first rest, taken = first ++ rest ∧
      node.Covers flags first ∧ (ofList nodes).Covers flags rest := by
  cases nodes with
  | nil => simp [ofList, Covers]
  | cons next nodes => exact Iff.rfl

theorem covers_alternatives_iff {flags : Flags} {nodes : List Node} (some_node : nodes ≠ [])
    {taken : List Char} :
    (alternatives nodes).Covers flags taken ↔ ∃ node ∈ nodes, node.Covers flags taken := by
  induction nodes with
  | nil => exact absurd rfl some_node
  | cons node nodes ih =>
      cases nodes with
      | nil => simp [alternatives]
      | cons next nodes =>
          rw [alternatives, Covers, ih (List.cons_ne_nil _ _),
            List.exists_mem_cons_iff (fun other => other.Covers flags taken) node]
          exact List.cons_ne_nil _ _

end Node

/-! ## Spots -/

namespace Spot

/-- The spot behind the next characters. -/
def past (s : Spot) (taken rest : List Char) : Spot :=
  { s with before := taken.reverse ++ s.before, after := rest, left := s.left - taken.length }

/-- The characters after the spot are counted right. -/
def IsMeasured (s : Spot) : Prop := s.left = s.after.length

/-- The text after the spot begins with one of the given texts, behind which the
continuation succeeds. -/
def Reaches (s : Spot) (covered : List Char → Prop) (k : Continuation) : Prop :=
  ∃ taken rest, s.after = taken ++ rest ∧ covered taken ∧ (k (s.past taken rest)).isSome

theorem past_past (s : Spot) (first second middle rest : List Char) :
    (s.past first middle).past second rest = s.past (first ++ second) rest := by
  simp [past, Nat.sub_sub]

theorem IsMeasured.past {s : Spot} (measured : s.IsMeasured) {taken rest : List Char}
    (split : s.after = taken ++ rest) : (s.past taken rest).IsMeasured := by
  rw [IsMeasured, split, List.length_append] at measured
  simp [IsMeasured, Spot.past, measured]

/-- Nothing is taken, or a first character and then more. -/
theorem reaches_iff {s : Spot} {covered : List Char → Prop} {k : Continuation} :
    s.Reaches covered k ↔ (covered [] ∧ (k s).isSome) ∨
      ∃ c rest, s.after = c :: rest ∧
        (s.past [c] rest).Reaches (fun taken => covered (c :: taken)) k := by
  constructor
  · rintro ⟨taken, rest, split, covers, succeeds⟩
    cases taken with
    | nil =>
        obtain rfl : s.after = rest := split
        exact .inl ⟨covers, succeeds⟩
    | cons c taken =>
        refine .inr ⟨c, taken ++ rest, split, taken, rest, rfl, covers, ?_⟩
        rwa [past_past]
  · rintro (⟨covers, succeeds⟩ | ⟨c, rest, split, taken, later, rfl, covers, succeeds⟩)
    · exact ⟨[], s.after, rfl, covers, succeeds⟩
    · rw [past_past] at succeeds
      exact ⟨c :: taken, later, split, covers, succeeds⟩

theorem reaches_congr {s : Spot} {covered other : List Char → Prop} {k : Continuation}
    (same : ∀ taken, covered taken ↔ other taken) : s.Reaches covered k ↔ s.Reaches other k := by
  simp only [Reaches, same]

theorem isSome_step_iff {s : Spot} {accepts : Char → Bool} {k : Continuation} :
    ((s.step? accepts).bind k).isSome ↔
      ∃ c rest, s.after = c :: rest ∧ accepts c = true ∧ (k (s.past [c] rest)).isSome := by
  rw [step?]
  split
  · next c rest after =>
    split
    · next accepted =>
      rw [Option.bind_some]
      constructor
      · intro succeeds
        exact ⟨c, rest, after, accepted, succeeds⟩
      · rintro ⟨other, others, split, -, succeeds⟩
        obtain ⟨rfl, rfl⟩ := List.cons.inj (after.symm.trans split)
        exact succeeds
    · next refused =>
      simp only [Option.bind_none, Option.isSome_none, Bool.false_eq_true, false_iff]
      rintro ⟨other, others, split, accepted, -⟩
      obtain ⟨rfl, -⟩ := List.cons.inj (after.symm.trans split)
      exact refused accepted
  · next after => simp [after]

end Spot

/-! ## Repetitions -/

/-- A body that takes one character of a kind. -/
def Body.Takes (body : Body) (accepts : Char → Bool) : Prop :=
  ∀ s k, body s k = (s.step? accepts).bind k

/-- A number of rounds, after some that were made already, that a repetition allows. -/
def Allowed (accepts : Char → Bool) (least : Nat) (most : Option Nat) (count : Nat)
    (taken : List Char) : Prop :=
  least ≤ count + taken.length ∧ (∀ bound ∈ most, count + taken.length ≤ bound) ∧
    ∀ c ∈ taken, accepts c = true

theorem allowed_cons_iff {accepts : Char → Bool} {least : Nat} {most : Option Nat} {count : Nat}
    {c : Char} {taken : List Char} :
    Allowed accepts least most count (c :: taken) ↔
      accepts c = true ∧ Allowed accepts least most (count + 1) taken := by
  rw [Allowed, Allowed, List.length_cons, List.forall_mem_cons, Nat.add_right_comm,
    ← Nat.add_assoc]
  constructor
  · rintro ⟨enough, within, accepted, others⟩
    exact ⟨accepted, enough, within, others⟩
  · rintro ⟨accepted, enough, within, others⟩
    exact ⟨enough, within, accepted, others⟩

/-- Another optional round is made exactly below the most number, since every round
begins at another place. -/
theorem mayRepeat_iff {most : Option Nat} {count : Nat} {last : Option Nat} {s : Spot}
    (fresh : ∀ place ∈ last, s.left < place) :
    mayRepeat most count last s = true ↔ ∀ bound ∈ most, count < bound := by
  have elsewhere : last ≠ some s.left := fun same => Nat.lt_irrefl _ (fresh _ same)
  cases most <;> simp [mayRepeat, elsewhere]

/-- Once there are rounds enough, another one is tried before the continuation. -/
theorem greedyRounds_of_le {body : Body} {least count : Nat} (enough : least ≤ count)
    (most : Option Nat) (fuel : Nat) (last : Option Nat) (s : Spot) (k : Continuation) :
    greedyRounds body least most (fuel + 1) count last s k =
      (if mayRepeat most count last s then
        body s fun s' => greedyRounds body least most fuel (count + 1) (some s.left) s' k
      else none).or (k s) := by
  rw [greedyRounds, if_neg (Nat.not_lt_of_le enough)]
  dsimp only
  split <;> simp [*]

section

variable {body : Body} {accepts : Char → Bool} (takes : body.Takes accepts) {least : Nat}
  {most : Option Nat} (least_le : ∀ bound ∈ most, least ≤ bound) (k : Continuation)
include takes least_le

/-- A repetition of single characters takes any allowed number of them.  The induction is
on the fuel; one round takes one character, so fuel beyond the text is never used up. -/
theorem isSome_greedyRounds_iff {fuel count : Nat} {last : Option Nat} {s : Spot}
    (measured : s.IsMeasured) (enough : s.after.length < fuel)
    (fresh : ∀ place ∈ last, s.left < place) (count_le : ∀ bound ∈ most, count ≤ bound) :
    (greedyRounds body least most fuel count last s k).isSome ↔
      s.Reaches (Allowed accepts least most count) k := by
  induction fuel generalizing s count last with
  | zero => cases enough
  | succ fuel ih =>
      -- What one more round comes to, by the hypothesis of the induction.
      have round {last : Option Nat} (fresh : ∀ place ∈ last, s.left ≤ place)
          (below : ∀ bound ∈ most, count < bound) :
          (body s fun s => greedyRounds body least most fuel (count + 1) last s k).isSome ↔
            ∃ c rest, s.after = c :: rest ∧ (s.past [c] rest).Reaches
              (fun taken => Allowed accepts least most count (c :: taken)) k := by
        rw [takes, Spot.isSome_step_iff]
        refine exists_congr fun c => exists_congr fun rest => and_congr_right fun after => ?_
        have shorter : (s.past [c] rest).after.length < fuel := by
          rw [after, List.length_cons] at enough
          exact Nat.lt_of_succ_lt_succ enough
        have later : ∀ place ∈ last, (s.past [c] rest).left < place := by
          intro place isPlace
          have left : s.left = rest.length + 1 := by rw [measured, after, List.length_cons]
          have within := fresh place isPlace
          simp only [Spot.past, List.length_singleton]
          omega
        rw [ih (measured.past after) shorter later below]
        simp only [Spot.Reaches, allowed_cons_iff]
        constructor
        · rintro ⟨accepted, taken, others, split, allowed, succeeds⟩
          exact ⟨taken, others, split, ⟨accepted, allowed⟩, succeeds⟩
        · rintro ⟨taken, others, split, ⟨accepted, allowed⟩, succeeds⟩
          exact ⟨accepted, taken, others, split, allowed, succeeds⟩
      rw [Spot.reaches_iff]
      by_cases required : count < least
      · rw [greedyRounds, if_pos required]
        have below : ∀ bound ∈ most, count < bound :=
          fun bound isBound => Nat.lt_of_lt_of_le required (least_le bound isBound)
        have tooFew : ¬ Allowed accepts least most count [] := fun allowed =>
          Nat.not_le_of_lt required allowed.1
        rw [round (fun place isPlace => Nat.le_of_lt (fresh place isPlace)) below]
        simp [tooFew]
      · have enough : least ≤ count := Nat.le_of_not_lt required
        have stops : Allowed accepts least most count [] := ⟨enough, count_le, by simp⟩
        rw [greedyRounds_of_le enough, Option.isSome_or, Bool.or_eq_true, or_comm]
        apply or_congr
        · simp [stops]
        · split
          · next again =>
            have below := (mayRepeat_iff fresh).mp again
            exact round (fun place isPlace => Nat.le_of_eq (Option.mem_some_iff.mp isPlace)) below
          · next full =>
            rw [mayRepeat_iff fresh] at full
            simp only [Option.isSome_none, Bool.false_eq_true, false_iff]
            rintro ⟨c, rest, -, taken, others, -, allowed, -⟩
            apply full
            intro bound isBound
            have within := allowed.2.1 bound isBound
            rw [List.length_cons] at within
            omega

end

/-! ## Matching plain nodes -/

/-- A node for one character takes one of a kind, and covers the texts of one of these. -/
theorem Node.IsSingle.exists_accepts {node : Node} (single : node.IsSingle)
    (widths : Nat → Width) (flags : Flags) :
    ∃ accepts, Body.Takes (node.run widths flags) accepts ∧
      ∀ taken, node.Covers flags taken ↔ IsOne accepts taken := by
  cases node with
  | char _ | notChar _ | set _ _ | any => exact ⟨_, fun _ _ => rfl, fun _ => Iff.rfl⟩
  | _ => cases single

theorem isOne_singleton_iff {accepts : Char → Bool} {c : Char} :
    IsOne accepts [c] ↔ accepts c = true := by
  simp [IsOne]

/-- A node for one character succeeds exactly when the next character is one that it
covers and the continuation succeeds behind it. -/
theorem Node.IsSingle.isSome_run_iff {node : Node} (single : node.IsSingle)
    (widths : Nat → Width) (flags : Flags) (s : Spot) (k : Continuation) :
    (node.run widths flags s k).isSome ↔ s.Reaches (node.Covers flags) k := by
  obtain ⟨accepts, takes, covers⟩ := single.exists_accepts widths flags
  rw [takes, Spot.isSome_step_iff, Spot.reaches_congr covers]
  constructor
  · rintro ⟨c, rest, after, accepted, succeeds⟩
    exact ⟨[c], rest, after, ⟨c, rfl, accepted⟩, succeeds⟩
  · rintro ⟨_, rest, after, ⟨c, rfl, accepted⟩, succeeds⟩
    exact ⟨c, rest, after, accepted, succeeds⟩

theorem Node.run_alt (widths : Nat → Width) (flags : Flags) (a b : Node) (s : Spot)
    (k : Continuation) :
    (Node.alt a b).run widths flags s k = (a.run widths flags s k).or (b.run widths flags s k) := by
  rw [Node.run]
  split <;> simp [*]

/-- A plain node succeeds exactly when the text from a spot on begins with one that it
covers and the continuation succeeds behind it. -/
theorem Node.IsPlain.isSome_run_iff {node : Node} (plain : node.IsPlain) (widths : Nat → Width)
    (flags : Flags) {s : Spot} (measured : s.IsMeasured) (k : Continuation) :
    (node.run widths flags s k).isSome ↔ s.Reaches (node.Covers flags) k := by
  induction node generalizing s k with
  | empty =>
      constructor
      · intro succeeds
        exact ⟨[], s.after, rfl, rfl, succeeds⟩
      · rintro ⟨_, rest, split, rfl, succeeds⟩
        obtain rfl : s.after = rest := split
        exact succeeds
  | char _ | notChar _ | set _ _ | any =>
      exact Node.IsSingle.isSome_run_iff (by trivial) widths flags s k
  | seq a b ihFirst ihSecond =>
      rw [Node.run, ihFirst plain.1 measured]
      constructor
      · rintro ⟨first, middle, split, firstCovers, succeeds⟩
        rw [ihSecond plain.2 (measured.past split)] at succeeds
        obtain ⟨second, rest, secondSplit, secondCovers, succeeds⟩ := succeeds
        obtain rfl : middle = second ++ rest := secondSplit
        rw [Spot.past_past] at succeeds
        rw [← List.append_assoc] at split
        exact ⟨_, rest, split, ⟨first, second, rfl, firstCovers, secondCovers⟩, succeeds⟩
      · rintro ⟨_, rest, split, ⟨first, second, rfl, firstCovers, secondCovers⟩, succeeds⟩
        rw [List.append_assoc] at split
        refine ⟨first, second ++ rest, split, firstCovers, ?_⟩
        rw [ihSecond plain.2 (measured.past split)]
        refine ⟨second, rest, rfl, secondCovers, ?_⟩
        rwa [Spot.past_past]
  | alt a b ihFirst ihSecond =>
      rw [Node.run_alt, Option.isSome_or, Bool.or_eq_true, ihFirst plain.1 measured,
        ihSecond plain.2 measured]
      simp only [Spot.Reaches, Node.Covers]
      constructor
      · rintro (⟨taken, rest, split, covers, succeeds⟩ | ⟨taken, rest, split, covers, succeeds⟩)
        · exact ⟨taken, rest, split, .inl covers, succeeds⟩
        · exact ⟨taken, rest, split, .inr covers, succeeds⟩
      · rintro ⟨taken, rest, split, covers | covers, succeeds⟩
        · exact .inl ⟨taken, rest, split, covers, succeeds⟩
        · exact .inr ⟨taken, rest, split, covers, succeeds⟩
  | rounds least most greed body =>
      obtain ⟨rfl, single, least_le⟩ := plain
      obtain ⟨accepts, takes, covers⟩ := single.exists_accepts widths flags
      have enough : s.after.length < least + s.left + 2 := by
        rw [measured]
        omega
      rw [Node.run, isSome_greedyRounds_iff takes least_le k measured enough (by simp) (by simp)]
      apply Spot.reaches_congr
      intro taken
      simp only [Allowed, Node.Covers, covers, isOne_singleton_iff, Nat.zero_add]
  | _ => cases plain

end PromptDispatch.Pattern
