import EntityScaffold.Proofs.Collisions
import EntityScaffold.Proofs.ProgressOnHosts
import EntityScaffold.Proofs.Regeneration
import EntityScaffold.Proofs.ShownNames

/-!
# A generator that is called again and again

A generator can be called with one document after another, in any order and more than once, and it
goes on after a call that failed (`Call`, `Generator.afterCalls`). Nothing is assumed of the host:
any of its operations may fail in any call, and it may change between the calls. What a call emits
are the artifacts whose emission succeeds (`Generator.emitted`). A call that fails leaves some
classes without all of their artifacts, and their names are not recorded. Still the table of names
stays faithful from call to call (`Faithful.afterCalls`): a derived class is reached only behind the
class around it, in the same call. So the table has exactly the classes of which some call emitted
everything, and every base class that was emitted lists the names on its path
(`shown_names_accumulate`).
-/

namespace EntityScaffold

open Mapping (Entity Mapped ParentsListed Placed Resource)
open Text (NameSet Occurs)

/-- A call: a document, and the state in which the generator finds the host. -/
structure Call (σ : Type) where
  resource : Resource
  state : σ

namespace Generator

open Generation (runIn)

variable {σ : Type} [Host (StateM σ)]

/-- The progress after a call, whether it fails or not. -/
def afterCall (g : Generator) (progress : Progress) (c : Call σ) : Progress :=
  (runIn (g.resource c.resource) progress c.state).1.2

/-- The progress after some calls. -/
def afterCalls (g : Generator) (progress : Progress) (calls : List (Call σ)) : Progress :=
  calls.foldl g.afterCall progress

/-- What a call emits: the artifacts for the entities of its document whose emission succeeds. -/
def emitted (g : Generator) (progress : Progress) (c : Call σ) : List Artifact :=
  g.emittedFrom c.resource.placed progress c.state

/-- What each of some calls emits. -/
def emittedIn (g : Generator) (progress : Progress) : List (Call σ) → List (List Artifact)
  | [] => []
  | c :: calls => g.emitted progress c :: g.emittedIn (g.afterCall progress c) calls

/-- How many of some calls fail. -/
def failedCalls (g : Generator) (progress : Progress) : List (Call σ) → Nat
  | [] => 0
  | c :: calls =>
    match (runIn (g.resource c.resource) progress c.state).1.1 with
    | .ok () => g.failedCalls (g.afterCall progress c) calls
    | .error _ => g.failedCalls (g.afterCall progress c) calls + 1

/-! ## One call -/

theorem files_after (progress : Progress) (ps : List Placed) (outcomes : List Outcome) :
    (progress.after ps outcomes).tally.files = progress.tally.files + outcomes.length := by
  rw [← Progress.files_foldl_record]
  rfl

theorem exists_outcomes (g : Generator) (progress : Progress) (c : Call σ) :
    ∃ outcomes : List Outcome,
      g.afterCall progress c = progress.after c.resource.placed outcomes ∧
        g.emitted progress c =
          (g.planFrom progress.shown c.resource.placed).take outcomes.length ∧
        outcomes.length ≤ 4 * c.resource.placed.length ∧
        ((runIn (g.resource c.resource) progress c.state).1.1 = .ok () →
          outcomes.length = 4 * c.resource.placed.length) := by
  have hresource : g.resource c.resource =
      (c.resource.placed.forM g.entity : Generation (StateM σ) Unit) := rfl
  obtain ⟨outcomes, hafter, hemitted, hall, hsome⟩ :=
    g.advances_forM_entity c.resource.placed progress c.state
  rw [← hresource] at hafter hall hsome
  refine ⟨outcomes, hafter, hemitted, ?_, hall⟩
  cases hresult : (runIn (g.resource c.resource) progress c.state).1.1 with
  | ok => exact Nat.le_of_eq (hall hresult)
  | error failure => exact Nat.le_of_lt (hsome failure hresult)

/-- The tally counts what is emitted. -/
theorem files_afterCall (g : Generator) (progress : Progress) (c : Call σ) :
    (g.afterCall progress c).tally.files =
      progress.tally.files + (g.emitted progress c).length := by
  obtain ⟨outcomes, hafter, hemitted, hle, -⟩ := g.exists_outcomes progress c
  have hplan := g.length_planFrom progress.shown c.resource.placed
  rw [hafter, files_after, hemitted, List.length_take_of_le (by omega)]

theorem length_emitted {g : Generator} {progress : Progress} {c : Call σ}
    {outcomes : List Outcome}
    (hafter : g.afterCall progress c = progress.after c.resource.placed outcomes) :
    (g.emitted progress c).length = outcomes.length := by
  have hfiles := files_after progress c.resource.placed outcomes
  rw [← hafter, files_afterCall] at hfiles
  exact Nat.add_left_cancel hfiles

theorem emitted_eq_take (g : Generator) (progress : Progress) (c : Call σ) :
    g.emitted progress c =
      (g.planFrom progress.shown c.resource.placed).take (g.emitted progress c).length := by
  obtain ⟨outcomes, hafter, hemitted, -⟩ := g.exists_outcomes progress c
  rw [length_emitted hafter]
  exact hemitted

/-- A call that succeeds emits all that is planned. -/
theorem emitted_of_ok {g : Generator} {progress : Progress} {c : Call σ}
    (hok : (runIn (g.resource c.resource) progress c.state).1.1 = .ok ()) :
    g.emitted progress c = g.planFrom progress.shown c.resource.placed := by
  obtain ⟨outcomes, -, hemitted, -, hall⟩ := g.exists_outcomes progress c
  have hplan := g.length_planFrom progress.shown c.resource.placed
  rw [hemitted, hall hok, ← hplan, List.take_length]

/-- On a world in memory a call emits what has an outcome when the plan is emitted to its tree. It
ends as this does, and leaves the tree that comes of it. -/
theorem emitted_on_world (g : Generator) (progress : Progress) (c : Call World) :
    let e := c.state.tree.emitAll c.state.workingDirectory g.output
      (g.planFrom progress.shown c.resource.placed)
    let run := runIn (g.resource c.resource) progress c.state
    g.emitted progress c =
        (g.planFrom progress.shown c.resource.placed).take e.outcomes.length ∧
      run.1.1 = e.result ∧ run.2.tree = e.tree := by
  intro e run
  obtain ⟨log, hrun⟩ := g.generates_forM_entity c.resource.placed progress c.state
  have hresource : g.resource c.resource =
      (c.resource.placed.forM g.entity : Generation Simulation Unit) := rfl
  rw [← hresource] at hrun
  have hafter : g.afterCall progress c = progress.after c.resource.placed e.outcomes := by
    unfold afterCall
    rw [hrun]
  refine ⟨?_, congrArg (·.1.1) hrun, congrArg (·.2.tree) hrun⟩
  rw [emitted_eq_take, length_emitted hafter]

/-- A call records a class when it has emitted its four artifacts. -/
theorem shown_afterCall (g : Generator) (progress : Progress) (c : Call σ) :
    (g.afterCall progress c).shown = shownAfter progress.shown
      (c.resource.placed.take ((g.emitted progress c).length / 4)) := by
  obtain ⟨outcomes, hafter, -⟩ := g.exists_outcomes progress c
  rw [length_emitted hafter, hafter]
  rfl

/-- A call that succeeds records all classes of its document. -/
theorem shown_afterCall_of_ok {g : Generator} {progress : Progress} {c : Call σ}
    (hok : (runIn (g.resource c.resource) progress c.state).1.1 = .ok ()) :
    (g.afterCall progress c).shown = shownAfter progress.shown c.resource.placed := by
  have hplan := g.length_planFrom progress.shown c.resource.placed
  rw [shown_afterCall, emitted_of_ok hok, hplan, Nat.mul_div_cancel_left _ (by decide),
    List.take_length]

/-- Where no call fails, calls do together what is planned for all of their documents. -/
theorem calls_of_failedCalls_eq_zero {g : Generator} {progress : Progress} {calls : List (Call σ)}
    (h : g.failedCalls progress calls = 0) :
    let ps := (calls.map (·.resource)).flatMap (·.placed)
    (g.emittedIn progress calls).flatten = g.planFrom progress.shown ps ∧
      (g.afterCalls progress calls).shown = shownAfter progress.shown ps := by
  induction calls generalizing progress with
  | nil => exact ⟨rfl, rfl⟩
  | cons c calls ih =>
    rw [failedCalls] at h
    split at h
    · next hok =>
      obtain ⟨hemitted, hshown⟩ := ih h
      simp only [List.map_cons, List.flatMap_cons]
      rw [emittedIn, List.flatten_cons, emitted_of_ok hok, hemitted, planFrom_append,
        shown_afterCall_of_ok hok]
      refine ⟨rfl, ?_⟩
      have hrest : (g.afterCalls progress (c :: calls)).shown =
          (g.afterCalls (g.afterCall progress c) calls).shown := rfl
      rw [hrest, hshown, shown_afterCall_of_ok hok, shownAfter, shownAfter, shownAfter,
        List.foldl_append]
    · cases h

end Generator

/-! ## All of a class -/

/-- The artifact of every kind is among these, for the class of the given name. -/
def HasAllOf (className : String) (as : List Artifact) : Prop :=
  ∀ kind, ∃ a ∈ as, a.kind = kind ∧ a.className = kind.className className

/-- The first members of a list that is put together from parts of one length: whole parts, and
fewer members than one part has. -/
theorem take_flatMap {α β : Type} {f : α → List β} {n : Nat} (hn : 0 < n)
    (hf : ∀ a, (f a).length = n) (as : List α) (k : Nat) :
    (as.flatMap f).take k =
      (as.take (k / n)).flatMap f ++ ((as.drop (k / n)).flatMap f).take (k % n) := by
  induction as generalizing k with
  | nil => simp
  | cons a as ih =>
    by_cases hk : k < n
    · have hnone : k / n = 0 := Nat.div_eq_of_lt hk
      have hall : k % n = k := Nat.mod_eq_of_lt hk
      rw [hnone, hall]
      rfl
    · have hle : n ≤ k := Nat.le_of_not_lt hk
      have hmore : k / n = (k - n) / n + 1 := Nat.div_eq_sub_div hn hle
      have hrest : k % n = (k - n) % n := Nat.mod_eq_sub_mod hle
      have hfirst : (f a).take k = f a := by
        apply List.take_of_length_le
        rw [hf]
        exact hle
      rw [hmore, hrest, List.flatMap_cons, List.take_append, hfirst, hf, ih, List.take_succ_cons,
        List.drop_succ_cons, List.flatMap_cons, List.append_assoc]

/-- The artifact that comes last is not among the first three. -/
theorem kind_ne_access_of_mem_take {s : Scaffold} {header? : Option String} {rest : List Artifact}
    {n : Nat} (hn : n < 4) {a : Artifact} (ha : a ∈ (s.artifacts header? ++ rest).take n) :
    a.kind ≠ .access := by
  have hthree : a ∈ (s.artifacts header? ++ rest).take 3 :=
    List.take_subset_take_left _ (by omega) ha
  have hfirst : (s.artifacts header? ++ rest).take 3 =
      [s.artifact header? .base, s.artifact header? .concrete, s.artifact header? .accessBase] :=
    rfl
  rw [hfirst] at hthree
  simp only [List.mem_cons, List.not_mem_nil, or_false] at hthree
  rcases hthree with rfl | rfl | rfl <;> exact nofun

theorem hasAllOf_iff (h : Hierarchy) (header? : Option String) {ps : List Placed} {k : Nat}
    {name : String} :
    HasAllOf name ((ps.flatMap fun p => (Scaffold.onPath h p).artifacts header?).take k) ↔
      name ∈ (ps.take (k / 4)).map (·.entity.className) := by
  have hfour : 0 < 4 := by decide
  have hlength (p : Placed) : ((Scaffold.onPath h p).artifacts header?).length = 4 := rfl
  have hparts : (ps.flatMap fun p => (Scaffold.onPath h p).artifacts header?).take k =
      (ps.take (k / 4)).flatMap (fun p => (Scaffold.onPath h p).artifacts header?) ++
        ((ps.drop (k / 4)).flatMap fun p => (Scaffold.onPath h p).artifacts header?).take
          (k % 4) := take_flatMap hfour hlength ps k
  rw [hparts]
  constructor
  · intro hall
    obtain ⟨a, ha, hkind, hname⟩ := hall .access
    rcases List.mem_append.mp ha with ha | ha
    · obtain ⟨p, hp, ha⟩ := List.mem_flatMap.mp ha
      obtain ⟨kind, -, rfl⟩ := List.mem_map.mp ha
      have haccess : kind = .access := hkind
      have hnames : kind.className p.entity.className = ArtifactKind.access.className name := hname
      rw [haccess] at hnames
      exact List.mem_map.mpr ⟨p, hp, ArtifactKind.className_inj hnames⟩
    · -- the class at hand when the call failed lacks its last artifact
      cases hrest : ps.drop (k / 4) with
      | nil =>
        rw [hrest, List.flatMap_nil, List.take_nil] at ha
        exact absurd ha List.not_mem_nil
      | cons p qs =>
        rw [hrest, List.flatMap_cons] at ha
        exact absurd hkind (kind_ne_access_of_mem_take (Nat.mod_lt k hfour) ha)
  · intro hname kind
    obtain ⟨p, hp, rfl⟩ := List.mem_map.mp hname
    refine ⟨(Scaffold.onPath h p).artifact header? kind, ?_, rfl, rfl⟩
    apply List.mem_append_left
    exact List.mem_flatMap.mpr ⟨p, hp, List.mem_map_of_mem kind.mem_all⟩

/-! ## Call after call -/

section Calls

variable {rs : List Resource} {h : Hierarchy}

theorem Mapping.parentsListed_resource (r : Resource) : ParentsListed r.placed.reverse := by
  have hall := parentsListed_placed [r]
  rw [List.flatMap_singleton] at hall
  exact hall

theorem Mapping.parentsListed_take (r : Resource) (k : Nat) :
    ParentsListed (r.placed.take k).reverse := by
  have hall := parentsListed_resource r
  rw [← List.take_append_drop k r.placed, List.reverse_append] at hall
  exact hall.of_append

theorem Mapping.mapped_of_mem_placed {r : Resource} (hr : r ∈ rs) :
    ∀ p ∈ r.placed, Mapped rs p := by
  intro p hp
  rw [← mem_placed_iff]
  exact List.mem_flatMap.mpr ⟨r, hr, hp⟩

variable {σ : Type} [Host (StateM σ)] {progress : Progress} {c : Call σ} {calls : List (Call σ)}

namespace Faithful

/-- From a faithful table a call emits the first artifacts of those that show the names on the
paths. -/
theorem emitted_eq (hrs : Hierarchy.ofResources rs = .ok h) (htable : Faithful rs progress.shown)
    (g : Generator) (hc : c.resource ∈ rs) :
    g.emitted progress c =
      (c.resource.placed.flatMap fun p =>
        (Scaffold.onPath g.hierarchy p).artifacts g.header?).take
          (g.emitted progress c).length := by
  have hlisted := Mapping.parentsListed_resource c.resource
  have hplan := (htable.after hrs (Mapping.mapped_of_mem_placed hc) hlisted g).2
  have hemitted := g.emitted_eq_take progress c
  rw [hplan] at hemitted
  exact hemitted

theorem afterCall (hrs : Hierarchy.ofResources rs = .ok h) (htable : Faithful rs progress.shown)
    (g : Generator) (hc : c.resource ∈ rs) : Faithful rs (g.afterCall progress c).shown := by
  have hps : ∀ p ∈ c.resource.placed.take ((g.emitted progress c).length / 4), Mapped rs p :=
    fun p hp => Mapping.mapped_of_mem_placed hc p (List.mem_of_mem_take hp)
  have hlisted := Mapping.parentsListed_take c.resource ((g.emitted progress c).length / 4)
  rw [Generator.shown_afterCall]
  exact (htable.after hrs hps hlisted g).1

theorem complete_afterCall (hrs : Hierarchy.ofResources rs = .ok h)
    (htable : Faithful rs progress.shown) (g : Generator) (hc : c.resource ∈ rs) {name : String} :
    name ∈ complete (g.afterCall progress c).shown ↔
      HasAllOf name (g.emitted progress c) ∨ name ∈ complete progress.shown := by
  rw [Generator.shown_afterCall, complete_shownAfter, List.mem_append, List.mem_reverse,
    ← hasAllOf_iff g.hierarchy g.header?, ← htable.emitted_eq hrs g hc]

theorem exists_onPath (hrs : Hierarchy.ofResources rs = .ok h)
    (htable : Faithful rs progress.shown) (g : Generator) (hc : c.resource ∈ rs) {a : Artifact}
    (ha : a ∈ g.emitted progress c) :
    ∃ p kind, Mapped rs p ∧ a = (Scaffold.onPath g.hierarchy p).artifact g.header? kind := by
  rw [htable.emitted_eq hrs g hc] at ha
  obtain ⟨p, hp, hartifact⟩ := List.mem_flatMap.mp (List.mem_of_mem_take ha)
  obtain ⟨kind, -, rfl⟩ := List.mem_map.mp hartifact
  exact ⟨p, kind, Mapping.mapped_of_mem_placed hc p hp, rfl⟩

/-- What is known of one call carries over to all of them, as each finds a faithful table. -/
theorem afterCalls (hrs : Hierarchy.ofResources rs = .ok h) (htable : Faithful rs progress.shown)
    (g : Generator) (hcalls : ∀ c ∈ calls, c.resource ∈ rs) :
    Faithful rs (g.afterCalls progress calls).shown ∧
      (∀ name, name ∈ complete (g.afterCalls progress calls).shown ↔
        (∃ as ∈ g.emittedIn progress calls, HasAllOf name as) ∨
          name ∈ complete progress.shown) ∧
      ∀ as ∈ g.emittedIn progress calls, ∀ a ∈ as, ∃ p kind, Mapped rs p ∧
        a = (Scaffold.onPath g.hierarchy p).artifact g.header? kind := by
  induction calls generalizing progress with
  | nil =>
    refine ⟨htable, fun name => ?_, fun as has => absurd has List.not_mem_nil⟩
    simp [Generator.afterCalls, Generator.emittedIn]
  | cons c calls ih =>
    have hc : c.resource ∈ rs := hcalls c List.mem_cons_self
    obtain ⟨hfaithful, hcomplete, hartifacts⟩ := ih (htable.afterCall hrs g hc)
      fun d hd => hcalls d (List.mem_cons_of_mem c hd)
    refine ⟨hfaithful, fun name => ?_, fun as has a ha => ?_⟩
    · have hrest := hcomplete name
      rw [htable.complete_afterCall hrs g hc, ← or_assoc] at hrest
      have hfold : g.afterCalls progress (c :: calls) =
          g.afterCalls (g.afterCall progress c) calls := rfl
      rw [hfold, hrest, Generator.emittedIn]
      simp only [List.mem_cons, exists_eq_or_imp]
      rw [or_comm (a := HasAllOf name (g.emitted progress c))]
    · rcases List.mem_cons.mp has with rfl | has
      · exact htable.exists_onPath hrs g hc ha
      · exact hartifacts as has a ha

end Faithful

/-- After any calls, failed ones and repeated ones among them, names are shown for exactly the
classes of which one call emitted everything. They are the names on the nesting path of the class,
and every base class that was emitted lists the names on the path of its class. -/
theorem shown_names_accumulate (hrs : Hierarchy.ofResources rs = .ok h) (g : Generator)
    (hcalls : ∀ c ∈ calls, c.resource ∈ rs) :
    (∀ name, ((g.afterCalls {} calls).shown? name).isSome ↔
      ∃ as ∈ g.emittedIn {} calls, HasAllOf name as) ∧
    (∀ p, Mapped rs p → ∀ shown,
      (g.afterCalls {} calls).shown? p.entity.className = some shown →
        ∀ name, name ∈ shown.names ↔ ∃ e ∈ p.path, e.Shows name) ∧
    ∀ as ∈ g.emittedIn {} calls, ∀ a ∈ as, a.kind = .base →
      ∃ (p : Placed) (s : Scaffold), Mapped rs p ∧ s.entity = p.entity ∧
        a = s.artifact g.header? .base ∧ s.ListsNames g.header? p.path := by
  have hstart : Faithful rs ({} : Progress).shown := faithful_nil rs
  obtain ⟨hfaithful, hcomplete, hartifacts⟩ := hstart.afterCalls hrs g hcalls
  refine ⟨fun name => ?_, fun p hp shown hshown name => ?_, fun as has a ha hbase => ?_⟩
  · have hnone : name ∉ complete ({} : Progress).shown := List.not_mem_nil
    have hiff := hcomplete name
    rw [or_iff_left hnone, ← isSome_lookup_iff] at hiff
    exact hiff
  · obtain ⟨q, hq, hname, hnames⟩ := hfaithful p.entity.className shown hshown
    rw [hnames, hq.unique hrs hp hname]
    exact mem_namesOn_iff
  · obtain ⟨p, kind, hp, hartifact⟩ := hartifacts as has a ha
    have hkind : kind = .base := by
      rw [hartifact] at hbase
      exact hbase
    rw [hkind] at hartifact
    exact ⟨p, Scaffold.onPath g.hierarchy p, hp, rfl, hartifact,
      Scaffold.listsNames_onPath g.hierarchy p g.header?⟩

end Calls

/-! ### A call that fails between two classes -/

/-- A world in which a directory stands in the place of the base class of `Student`. -/
def blockedWorld : World :=
  ⟨⟨[(["work"], .directory),
    (["work", "out"], .directory),
    (["work", "out", "school"], .directory),
    (["work", "out", "school", "base"], .directory),
    (["work", "out", "school", "base", "BaseStudent.java"], .directory)]⟩, ["work"], []⟩

/-- A call that comes to `Person` but not to `Student`, which is derived from it, and then calls
without hindrance. -/
def schoolCalls : List (Call World) :=
  [⟨⟨"Person.hbm.xml", some "school", [Scaffold.person]⟩, blockedWorld⟩,
    ⟨⟨"Room.hbm.xml", some "school", [Scaffold.room]⟩, Conversion.freshWorld⟩,
    ⟨⟨"Person.hbm.xml", some "school", [Scaffold.person]⟩, Conversion.freshWorld⟩]

theorem shown_names_accumulate_school :
    Hierarchy.ofResources Scaffold.schoolResources = .ok Scaffold.schoolHierarchy ∧
      (Conversion.schoolGenerator.afterCalls {} (schoolCalls.take 1)).shown? "Student" = none ∧
      ∃ shown, (Conversion.schoolGenerator.afterCalls {} schoolCalls).shown? "Student" =
          some shown ∧
        (∃ as ∈ Conversion.schoolGenerator.emittedIn {} schoolCalls, HasAllOf "Student" as) ∧
        ∀ name, name ∈ shown.names ↔ ∃ e ∈ [Scaffold.student, Scaffold.person], e.Shows name := by
  have hresources : Hierarchy.ofResources Scaffold.schoolResources =
      .ok Scaffold.schoolHierarchy := rfl
  have hcalls : ∀ c ∈ schoolCalls, c.resource ∈ Scaffold.schoolResources := by
    intro c hc
    simp only [schoolCalls, List.mem_cons, List.not_mem_nil, or_false] at hc
    rcases hc with rfl | rfl | rfl
    · exact List.mem_cons_of_mem _ List.mem_cons_self
    · exact List.mem_cons_self
    · exact List.mem_cons_of_mem _ List.mem_cons_self
  have hname : Scaffold.student.className = "Student" := by decide
  have hblocked : ((Conversion.schoolGenerator.afterCalls {} (schoolCalls.take 1)).shown?
      "Student").isNone = true := by decide +kernel
  have hend : ((Conversion.schoolGenerator.afterCalls {} schoolCalls).shown?
      "Student").isSome = true := by decide +kernel
  obtain ⟨hall, hnames, -⟩ := shown_names_accumulate hresources Conversion.schoolGenerator hcalls
  obtain ⟨shown, hshown⟩ := Option.isSome_iff_exists.mp hend
  have hpath := hnames ⟨Scaffold.student, [Scaffold.person]⟩ Scaffold.mapped_student shown
  rw [hname] at hpath
  exact ⟨hresources, Option.isNone_iff_eq_none.mp hblocked, shown, hshown,
    (hall "Student").mp hend, hpath hshown⟩

end EntityScaffold
