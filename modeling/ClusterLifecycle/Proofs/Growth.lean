import ClusterLifecycle.Proofs.Keepers
import ClusterLifecycle.Proofs.Sharing

/-!
Clusters that grow by a group, and clusters that had it from the beginning.

* `run_applyParts_ok`: applying parts succeeds where each gives a manifest, and applies these;
* `Manifest.last?`: the manifest that an object has its body from;
* `growth_as_declared`: adding a group to a cluster that has been created leaves what creating the
  cluster with the group would have left.
-/

namespace ClusterLifecycle

namespace NodeGroup

/-- What a further group adds: the shared template is applied with the first group of workers. -/
theorem allParts_concat (sharedTemplate : Bool) (groups : List NodeGroup) (g : NodeGroup) :
    allParts sharedTemplate (groups ++ [g]) =
      allParts sharedTemplate groups ++
        g.parts (sharedTemplate && groups.all isMaster && !g.isMaster) := by
  induction groups generalizing sharedTemplate with
  | nil => simp [allParts]
  | cons h rest ih => simp [allParts, ih, Bool.and_assoc]

end NodeGroup

namespace Deployment

variable {d : Deployment} {c : Cluster} {g : NodeGroup}

/-- A manifest does not depend on the status of the cluster, and on its groups only for the first
of its masters. -/
theorem manifest_regrouped (k : ResourceKind) (g : Option NodeGroup)
    (credential : Option Credential) (status : Status) {groups : List NodeGroup}
    (first : (c.withGroups groups).masters.head? = c.masters.head?) :
    d.manifest k { c with status, nodeGroups := groups } g credential =
      d.manifest k c g credential := by
  cases k with
  | cluster =>
    have same : ({ c with status, nodeGroups := groups } : Cluster).masters.head? =
        c.masters.head? := first
    unfold manifest
    simp only [same]
    rfl
  | _ => rfl

theorem drawn_append {first second : List Part} {manifests : List Manifest} :
    d.Drawn c (first ++ second) manifests ↔
      ∃ ms ns, manifests = ms ++ ns ∧ d.Drawn c first ms ∧ d.Drawn c second ns := by
  unfold Drawn
  rw [List.map_append]
  constructor
  · intro drawn
    obtain ⟨ms, ns, rfl, hms, hns⟩ := List.map_eq_append_iff.1 drawn.symm
    exact ⟨ms, ns, rfl, hms.symm, hns.symm⟩
  · rintro ⟨ms, ns, rfl, hms, hns⟩
    rw [List.map_append, hms, hns]

theorem drawn_cons {p : Part} {rest : List Part} {manifests : List Manifest} :
    d.Drawn c (p :: rest) manifests ↔
      ∃ m ms, manifests = m :: ms ∧ d.manifest p.1 c p.2 none = .ok m ∧ d.Drawn c rest ms := by
  constructor
  · intro drawn
    obtain ⟨m, ms, rfl, hm, hms⟩ := List.map_eq_cons_iff.1 drawn.symm
    exact ⟨m, ms, rfl, hm.symm, hms.symm⟩
  · rintro ⟨m, ms, rfl, hm, hms⟩
    exact List.cons_eq_cons.2 ⟨hm, hms⟩

theorem Drawn.exists_manifest {parts : List Part} {manifests : List Manifest}
    (h : d.Drawn c parts manifests) {p : Part} (member : p ∈ parts) :
    ∃ m ∈ manifests, d.manifest p.1 c p.2 none = .ok m := by
  have : d.manifest p.1 c p.2 none ∈ manifests.map .ok := h ▸ List.mem_map_of_mem member
  obtain ⟨m, hm, same⟩ := List.mem_map.1 this
  exact ⟨m, hm, same.symm⟩

theorem Drawn.plain {parts : List Part} {manifests : List Manifest}
    (h : d.Drawn c parts manifests) : ∀ m ∈ manifests, m.Plain := by
  intro m member
  obtain ⟨p, -, drawn⟩ := h.exists_part member
  exact (manifest_facts drawn).2

theorem ofGroups_groupParts {sharedTemplate : Bool} {p : Part}
    (member : p ∈ g.parts sharedTemplate) : ofGroups p.1 = true := by
  unfold NodeGroup.parts at member
  cases role : g.role <;> cases sharedTemplate <;> simp [role] at member <;>
    rcases member with rfl | rfl | rfl <;> rfl

/-- The template that workers share is the only part for its object. -/
theorem eq_workerTemplate {p : Part} {m n : Manifest} (tidy : Tidy p)
    (drawn : d.manifest p.1 c p.2 none = .ok m)
    (template : d.manifest .workerTemplate c none none = .ok n) (same : m.target = n.target) :
    m = n := by
  have target := (manifest_facts drawn).1
  rw [same] at target
  have lone : Tidy (.workerTemplate, none) := nofun
  have keys := key_eq_of_target tidy lone target (manifest_facts template).1
  obtain ⟨kind, group⟩ := p
  obtain ⟨rfl, none⟩ := Prod.ext_iff.1 keys
  rw [Option.map_eq_none_iff.1 none] at drawn
  exact Except.ok.inj (drawn.symm.trans template)

end Deployment

namespace Manifest

/-- The last of the manifests that go to an object. -/
def last? (manifests : List Manifest) (t : ObjectRef) : Option Manifest :=
  manifests.reverse.find? (·.target = t)

variable {l first second : List Manifest} {m : Manifest} {t : ObjectRef}

theorem last?_append : last? (first ++ second) t = (last? second t).or (last? first t) := by
  unfold last?
  rw [List.reverse_append, List.find?_append]

theorem last?_singleton : last? [m] t = if m.target = t then some m else none := by
  by_cases same : m.target = t <;> simp [last?, same]

theorem mem_of_last? (h : last? l t = some m) : m ∈ l ∧ m.target = t :=
  ⟨List.mem_reverse.1 (List.mem_of_find?_eq_some h), by simpa using List.find?_some h⟩

/-- A manifest that all others for its object equal is the last one. -/
theorem last?_of_unique (member : m ∈ l) (unique : ∀ n ∈ l, n.target = m.target → n = m) :
    last? l m.target = some m := by
  cases h : last? l m.target with
  | none =>
    have other := List.find?_eq_none.1 h m (List.mem_reverse.2 member)
    simp at other
  | some n =>
    obtain ⟨member', target⟩ := mem_of_last? h
    rw [unique n member' target]

/-- What is applied once more changes nothing. -/
theorem last?_again (there : last? l m.target = some m) :
    last? (l ++ m :: second) t = last? (l ++ second) t := by
  rw [List.append_cons, last?_append, last?_append, last?_append, last?_singleton]
  by_cases same : m.target = t
  · rw [if_pos same, ← same, there, Option.or_some]
    rfl
  · rw [if_neg same, Option.none_or]

/-- Manifests for different objects may be applied in any order. -/
theorem last?_swap (apart : ∀ m ∈ first, ∀ n ∈ second, m.target ≠ n.target) :
    last? (l ++ first ++ second) t = last? (l ++ second ++ first) t := by
  simp only [last?_append]
  cases h : last? first t with
  | none => rw [Option.none_or, Option.none_or]
  | some m =>
    cases h' : last? second t with
    | none => rw [Option.none_or]; rfl
    | some n =>
      obtain ⟨member, target⟩ := mem_of_last? h
      obtain ⟨member', target'⟩ := mem_of_last? h'
      exact absurd (target.trans target'.symm) (apart m member n member')

end Manifest

namespace Deployment

open Manifest

variable {d : Deployment} {c : Cluster} {g : NodeGroup} {ms ns : List Manifest}

/-- A template that has been applied with an earlier group need not be applied again. -/
theorem last?_groupParts (drawn : d.Drawn c c.superstructure ms)
    (more : d.Drawn c (g.parts true) ns) :
    ∃ ns', d.Drawn c (g.parts (c.nodeGroups.all NodeGroup.isMaster && !g.isMaster)) ns' ∧
      ∀ t, last? (ms ++ ns') t = last? (ms ++ ns) t := by
  by_cases earlier : g.role = .worker ∧ ∃ h ∈ c.nodeGroups, h.role = .worker
  · obtain ⟨role, h, member, worker⟩ := earlier
    have mixed : c.nodeGroups.all NodeGroup.isMaster = false := by
      rw [List.all_eq_false]
      exact ⟨h, member, by simp [NodeGroup.isMaster, worker]⟩
    have whole : g.parts true = [(.machineTemplate, some g)] ++
        ((.workerTemplate, none) :: [(.machineDeployment, some g)]) := by
      simp [NodeGroup.parts, role]
    have skipped : g.parts (c.nodeGroups.all NodeGroup.isMaster && !g.isMaster) =
        [(.machineTemplate, some g)] ++ [(.machineDeployment, some g)] := by
      simp [NodeGroup.parts, role, mixed]
    rw [whole] at more
    obtain ⟨machines, rest, rfl, first, later⟩ := drawn_append.1 more
    obtain ⟨shared, deployment, rfl, template, last⟩ := drawn_cons.1 later
    refine ⟨machines ++ deployment, ?_, ?_⟩
    · rw [skipped]
      exact drawn_append.2 ⟨machines, deployment, rfl, first, last⟩
    · intro t
      have there : last? (ms ++ machines) shared.target = shared := by
        apply last?_of_unique
        · have member : (.workerTemplate, none) ∈ c.superstructure := List.mem_append_left _
            (List.mem_append_right _ (NodeGroup.workerTemplate_mem_allParts member worker))
          obtain ⟨m, hm, again⟩ := drawn.exists_manifest member
          cases again.symm.trans template
          exact List.mem_append_left _ hm
        · intro n hn same
          rcases List.mem_append.1 hn with hn | hn
          · obtain ⟨p, hp, drawnp⟩ := drawn.exists_part hn
            exact eq_workerTemplate (tidy_parts c p (List.mem_append_right _ hp)) drawnp template same
          · obtain ⟨p, hp, drawnp⟩ := Drawn.exists_part first hn
            have tidy : Tidy p := by
              rw [List.mem_singleton.1 hp]
              exact fun _ => trivial
            exact eq_workerTemplate tidy drawnp template same
      rw [← List.append_assoc, ← List.append_assoc, last?_again there]
  · refine ⟨ns, ?_, fun _ => rfl⟩
    suffices same : g.parts (c.nodeGroups.all NodeGroup.isMaster && !g.isMaster) = g.parts true by
      rwa [same]
    cases role : g.role with
    | master => simp [NodeGroup.parts, role]
    | worker =>
      have masters : c.nodeGroups.all NodeGroup.isMaster = true := by
        rw [List.all_eq_true]
        intro h member
        cases worker : h.role with
        | master => simp [NodeGroup.isMaster, worker]
        | worker => exact absurd ⟨role, h, member, worker⟩ earlier
      simp [NodeGroup.isMaster, role, masters]

/-- A cluster that has been created has a master, and with a further group its first one stays. -/
theorem masters_grown (drawn : d.Drawn c c.superstructure ms) (g : NodeGroup) :
    (c.withGroups (c.nodeGroups ++ [g])).masters.head? = c.masters.head? := by
  have frame : (.cluster, none) ∈ c.superstructure := by simp [Cluster.superstructure]
  obtain ⟨m, -, applied⟩ := drawn.exists_manifest frame
  obtain ⟨t, -, applied⟩ := bind_ok applied
  obtain ⟨master, found, -⟩ := bind_ok applied
  cases first : c.masters.head? with
  | none =>
    rw [first] at found
    cases found
  | some master =>
    unfold Cluster.masters at first ⊢
    rw [Cluster.withGroups, List.filter_append, List.head?_append, first, Option.some_or]

/-- The manifests of a cluster with one more group, and those of the cluster with the parts of the
group applied later: each object has its body from the same one. -/
theorem last?_superstructure (drawn : d.Drawn c c.superstructure ms)
    (more : d.Drawn c (g.parts true) ns) :
    ∃ all, d.Drawn c (c.withGroups (c.nodeGroups ++ [g])).superstructure all ∧
      ∀ t, last? all t = last? (ms ++ ns) t := by
  obtain ⟨ns', skipped, same⟩ := last?_groupParts drawn more
  obtain ⟨front, frame, rfl, fronts, frames⟩ := drawn_append.1 drawn
  refine ⟨front ++ ns' ++ frame, ?_, ?_⟩
  · unfold Cluster.superstructure
    change d.Drawn c (_ ++ NodeGroup.allParts true (c.nodeGroups ++ [g]) ++ _) _
    rw [NodeGroup.allParts_concat, ← List.append_assoc]
    exact drawn_append.2 ⟨_, _, rfl, drawn_append.2 ⟨_, _, rfl, fronts, skipped⟩, frames⟩
  · intro t
    rw [← same, last?_swap]
    intro m hm n hn target
    obtain ⟨p, hp, drawnp⟩ := Drawn.exists_part skipped hm
    obtain ⟨q, hq, drawnq⟩ := Drawn.exists_part frames hn
    have named := (manifest_facts drawnp).1
    rw [target] at named
    have kinds := (target_injective named (manifest_facts drawnq).1).1
    have grouped := ofGroups_groupParts hp
    rw [kinds] at grouped
    simp only [List.mem_cons, List.not_mem_nil, or_false] at hq
    rcases hq with rfl | rfl <;> cases grouped

end Deployment

namespace World

open Operation

variable {ρ : Type} {k : Keeper ρ} {d : Deployment} {c : Cluster} {w s : World ρ}

theorem run_apply_ok {kind : ResourceKind} {g : Option NodeGroup}
    {credential : Option Credential} :
    (d.apply kind c g credential).run.run (answer k) w = (.ok (), s) ↔
      ∃ m, d.manifest kind c g credential = .ok m ∧ s = w.place m := by
  unfold Deployment.apply
  cases drawn : d.manifest kind c g credential with
  | error e =>
    constructor
    · rintro ⟨⟩
    · rintro ⟨m, ⟨⟩, -⟩
  | ok m =>
    change ((.ok (), w.place m) : Result Unit × World ρ) = _ ↔ _
    constructor
    · rintro ⟨⟩
      exact ⟨m, rfl, rfl⟩
    · rintro ⟨m, ⟨⟩, rfl⟩
      rfl

/-- Applying parts succeeds where each gives a manifest, and applies these one after the other. -/
theorem run_applyParts_ok {parts : List Part} :
    (parts.forM (d.applyPart c)).run.run (answer k) w = (.ok (), s) ↔
      ∃ ms, d.Drawn c parts ms ∧ s = ms.foldl place w := by
  induction parts generalizing w with
  | nil =>
    constructor
    · rintro ⟨⟩
      exact ⟨[], rfl, rfl⟩
    · rintro ⟨ms, drawn, rfl⟩
      rw [List.map_eq_nil_iff.1 drawn.symm]
      rfl
  | cons p rest ih =>
    rw [List.forM, run_bind_ok]
    constructor
    · rintro ⟨_, w', first, later⟩
      obtain ⟨m, hm, rfl⟩ := run_apply_ok.1 first
      obtain ⟨ms, hms, rfl⟩ := ih.1 later
      exact ⟨m :: ms, Deployment.drawn_cons.2 ⟨m, ms, rfl, hm, hms⟩, rfl⟩
    · rintro ⟨_, drawn, rfl⟩
      obtain ⟨m, ms, rfl, hm, hms⟩ := Deployment.drawn_cons.1 drawn
      exact ⟨(), w.place m, run_apply_ok.2 ⟨m, hm, rfl⟩, ih.2 ⟨ms, hms, rfl⟩⟩

/-- Where the last manifests for it are the same, an object gets the same body. -/
theorem object?_foldl_congr {ms ns : List Manifest} {t : ObjectRef} (plain : ∀ m ∈ ms, m.Plain)
    (plain' : ∀ m ∈ ns, m.Plain) (w : World ρ) (last : Manifest.last? ms t = Manifest.last? ns t) :
    (ms.foldl place w).object? t = (ns.foldl place w).object? t := by
  unfold Manifest.last? at last
  rw [object?_foldl_place plain, object?_foldl_place plain', last]

theorem foldl_place_withRecords (manifests : List Manifest) (w : World ρ) (records : ρ) :
    manifests.foldl place { w with records } = { manifests.foldl place w with records } := by
  induction manifests generalizing w with
  | nil => rfl
  | cons m rest ih => exact ih (w.place m)

theorem foldl_place_objects (manifests : List Manifest) (w : World ρ) :
    manifests.foldl place w = { w with objects := (manifests.foldl place w).objects } := by
  induction manifests generalizing w with
  | nil => rfl
  | cons m rest ih =>
    rw [List.foldl_cons, ih (w.place m)]
    rfl

/-- A pass that goes on from an operation succeeds where each of them does. -/
theorem run_lift_bind_ok {α β : Type} {op : Operation β} {f : β → Pass α} {a : α} {c' : Cluster} :
    ((liftM op >>= f : Pass α).run.run c).run (answer k) w = ((.ok a, c'), s) ↔
      ∃ b w', op.run.run (answer k) w = (.ok b, w') ∧
        ((f b).run.run c).run (answer k) w' = ((.ok a, c'), s) := by
  have lifted : (liftM op : Pass β).run.run c = op.run.bind fun r => .done (r, c) := rfl
  rw [ExceptT.run_bind, StateT.run_bind, Program.bind_eq, lifted, Program.run_bind,
    Program.run_bind, Program.run_done]
  generalize op.run.run (answer k) w = ran
  obtain ⟨r, w'⟩ := ran
  cases r with
  | ok b =>
    constructor
    · exact fun rest => ⟨b, w', rfl, rest⟩
    · rintro ⟨b, w', ⟨⟩, rest⟩
      exact rest
  | error e =>
    constructor
    · rintro ⟨⟩
    · rintro ⟨b, w', ⟨⟩, _⟩

/-- A group that is added is saved first, and then its parts are applied. -/
theorem run_addNodeGroup_ok {g : NodeGroup} {c' : Cluster}
    (run : ((d.addNodeGroup g).run.run c).run (answer k) w = ((.ok (), c'), s)) :
    ∃ records ms, d.Drawn (c.declaring g) (g.parts true) ms ∧
      s = ms.foldl place { w with records } := by
  rw [Deployment.addNodeGroup_eq] at run
  change ((if c.status.action = .delete then
      throw (.unsupported "create_nodegroup on a deleted cluster")
    else do
      set (c.declaring g)
      saveCluster (c.declaring g)
      d.createNodeGroup (c.declaring g) g : Pass Unit).run.run c).run (answer k) w = _ at run
  by_cases deleted : c.status.action = .delete
  · rw [if_pos deleted] at run
    cases run
  · rw [if_neg deleted] at run
    change (((liftM (saveCluster (c.declaring g)) : Pass Unit) >>= fun _ =>
      liftM (d.createNodeGroup (c.declaring g) g)).run.run (c.declaring g)).run (answer k) w = _
      at run
    obtain ⟨_, w', saved, provisions⟩ := run_lift_bind_ok.1 run
    have kept : w' = { w with records := (k.save (c.declaring g) w.records).2 } :=
      (congrArg Prod.snd saved).symm
    rw [← bind_pure (liftM (d.createNodeGroup (c.declaring g) g) : Pass Unit)] at provisions
    obtain ⟨_, _, provisions, ⟨⟩⟩ := run_lift_bind_ok.1 provisions
    rw [Deployment.createNodeGroup, Deployment.provision_eq] at provisions
    obtain ⟨ms, drawn, rfl⟩ := run_applyParts_ok.1 provisions
    exact ⟨_, ms, drawn, by rw [kept]⟩

/-- Adding a group to a cluster that has been created leaves the objects, with their bodies, and the
credentials that creating the cluster with the group leaves, whatever the name and the role of the
group and whatever was there before. -/
theorem growth_as_declared {g : NodeGroup} {c' : Cluster} {w₁ w₂ : World ρ}
    (created : (d.createCluster c).run.run (answer k) w = (.ok (), w₁))
    (added : ((d.addNodeGroup g).run.run c).run (answer k) w₁ = ((.ok (), c'), w₂)) :
    ∃ s, (d.createCluster (c.withGroups (c.nodeGroups ++ [g]))).run.run (answer k) w = (.ok (), s) ∧
      (∀ t, s.object? t = w₂.object? t) ∧ s.credentials = w₂.credentials ∧
        s.issued = w₂.issued := by
  obtain ⟨records, ns, more, rfl⟩ := run_addNodeGroup_ok added
  rw [Deployment.createCluster_eq, run_bind_ok] at created
  obtain ⟨_, w', founds, created⟩ := created
  obtain ⟨_, w'', configures, builds⟩ := run_bind_ok.1 created
  obtain ⟨ms, drawn, rfl⟩ := run_applyParts_ok.1 builds
  have first := Deployment.masters_grown drawn g
  have more : d.Drawn c (g.parts true) ns := by
    unfold Deployment.Drawn at more ⊢
    rw [← more]
    exact List.map_congr_left fun p _ => (Deployment.manifest_regrouped _ _ _ _ first).symm
  obtain ⟨all, drawn', last⟩ := Deployment.last?_superstructure drawn more
  have same (p : Part) : d.applyPart (c.withGroups (c.nodeGroups ++ [g])) p = d.applyPart c p := by
    unfold Deployment.applyPart Deployment.apply
    rw [← Deployment.manifest_regrouped p.1 p.2 none c.status first]
    rfl
  refine ⟨all.foldl place w'', ?_, ?_, ?_, ?_⟩
  · rw [Deployment.createCluster_eq, funext same]
    refine run_bind_ok.2 ⟨_, w', founds, run_bind_ok.2 ⟨_, w'', configures, ?_⟩⟩
    exact run_applyParts_ok.2 ⟨all, drawn', rfl⟩
  · intro t
    rw [foldl_place_withRecords ns, ← List.foldl_append]
    have plain := (Deployment.drawn_append.2 ⟨ms, ns, rfl, drawn, more⟩).plain
    exact object?_foldl_congr drawn'.plain plain w'' (last t)
  · rw [foldl_place_objects, foldl_place_objects ns, foldl_place_objects ms]
  · rw [foldl_place_objects, foldl_place_objects ns, foldl_place_objects ms]

/-- A further group of workers with the name of the first one. -/
theorem growth_as_declared_sample :
    let d := Deployment.sample
    let c := Cluster.completeSample .nil
    let g : NodeGroup := { name := "default-worker", role := .worker, nodeCount := 5 }
    let w : World Records := { records := [] }
    ∃ w₁ c' w₂ s, (d.createCluster c).run.run (answer .memory) w = (.ok (), w₁) ∧
      ((d.addNodeGroup g).run.run c).run (answer .memory) w₁ = ((.ok (), c'), w₂) ∧
      (d.createCluster (c.withGroups (c.nodeGroups ++ [g]))).run.run (answer .memory) w =
        (.ok (), s) ∧ (∀ t, s.object? t = w₂.object? t) ∧ s.credentials = w₂.credentials := by
  intro d c g w
  have complete := Cluster.complete_completeSample .nil
  have fresh : Fresh d c w := ⟨rfl, rfl, rfl⟩
  obtain ⟨_, drawn₁⟩ := Deployment.drawn_ok d complete (Deployment.sound_foundation c)
  obtain ⟨_, drawn₂⟩ := Deployment.drawn_ok d complete (Deployment.sound_superstructure c)
  obtain ⟨w₁, created, -⟩ := (underway_of_fresh fresh).run_ok (k := .memory) drawn₁ drawn₂
  obtain ⟨c', w₂, added⟩ : ∃ c' w₂,
      ((d.addNodeGroup g).run.run c).run (answer .memory) w₁ = ((.ok (), c'), w₂) := ⟨_, _, rfl⟩
  obtain ⟨s, declared, objects, credentials, -⟩ := growth_as_declared created added
  exact ⟨w₁, c', w₂, s, created, added, declared, objects, credentials⟩

end World

end ClusterLifecycle
