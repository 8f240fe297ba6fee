import CodeGraph.Command.Run
import CodeGraph.Proofs.Storage.Dependencies

/-!
# Reports and listings of alike sessions

What is printed of an edge is what is seen of it, and of a reference to an entity only its number is
printed. So alike sessions make the same rows and print the same lines.

## Main results

* `Session.IsAlike.rows_eq` — the same rows of every report
* `Session.run_eq` — the same outcome of every command
-/

namespace CodeGraph

section Answers

variable {ε α β : Type} {x y : Except ε α} {g : α → α}

theorem Except.cases_of_map (h : x.map g = y.map g) : (∃ e, x = .error e ∧ y = .error e) ∨
    ∃ a b, x = .ok a ∧ y = .ok b ∧ g a = g b := by
  cases x with
  | error e =>
    cases y with
    | error e' => exact Or.inl ⟨e, rfl, h.symm⟩
    | ok b => simp [Except.map] at h
  | ok a =>
    cases y with
    | error e' => simp [Except.map] at h
    | ok b => exact Or.inr ⟨a, b, rfl, rfl, Except.ok.inj h⟩

/-- What is done with an answer is the same if it looks at what is seen only. -/
theorem Except.bind_congr_of_map {f : α → Except ε β} (h : x.map g = y.map g)
    (hf : ∀ a, f (g a) = f a) : x.bind f = y.bind f := by
  obtain ⟨e, rfl, rfl⟩ | ⟨a, b, rfl, rfl, hg⟩ := Except.cases_of_map h
  · rfl
  · rw [Except.bind, Except.bind, ← hf a, hg, hf b]

theorem Listing.query_congr_of_map {x y : Except Error α} {f : α → Listing}
    (h : x.map g = y.map g) (hf : ∀ a, f (g a) = f a) :
    Listing.query x f = Listing.query y f := by
  obtain ⟨e, rfl, rfl⟩ | ⟨a, b, rfl, rfl, hg⟩ := Except.cases_of_map h
  · rfl
  · rw [Listing.query, Listing.query, ← hf a, hg, hf b]

end Answers

/-! ### Lines -/

theorem Listing.detailedLines_seen (limit : Nat) (k : Entity) (es : List Edge) :
    Listing.detailedLines limit (k, es.map Edge.seen) = Listing.detailedLines limit (k, es) := by
  simp only [Listing.detailedLines, Listing.dependencyLine, List.length_map, ← List.map_take,
    List.map_map]
  rfl

theorem DependencyMap.SameUpToTies.dependencyBlock_eq {m m' : DependencyMap}
    (h : m.SameUpToTies m') (heading : String) (line : Entity → Nat → List String) :
    Listing.dependencyBlock heading (fun (k, es) => line k es.length) m =
      Listing.dependencyBlock heading (fun (k, es) => line k es.length) m' := by
  have hcounts : m.entries.map (fun g => (g.1, g.2.length)) =
      m'.entries.map fun g => (g.1, g.2.length) := by
    rw [← List.forall₂_eq_eq_eq, List.forall₂_map_left_iff, List.forall₂_map_right_iff]
    refine h.imp fun g g' hg => ?_
    have hlength := hg.2.1.length_eq
    rw [List.length_map, List.length_map] at hlength
    exact Prod.ext hg.1 hlength
  -- the block of a map is made from its keys and the lengths of its lists
  have hblock (m : DependencyMap) :
      Listing.dependencyBlock heading (fun (k, es) => line k es.length) m =
        if (m.entries.map fun g => (g.1, g.2.length)).isEmpty then Listing.ofLines []
        else Listing.ofLines (heading ::
          (m.entries.map fun g => (g.1, g.2.length)).flatMap fun p => line p.1 p.2) := by
    rw [Listing.dependencyBlock, DependencyMap.isEmpty, List.isEmpty_map, List.flatMap_map]
  rw [hblock m, hblock m', hcounts]

namespace Session

variable {s s' : Session} {db db' : Database} {config : Config}

namespace IsAlike

/-! ### Reports -/

theorem className_eq (h : s.IsAlike s') (id : EntityId) : s.className id = s'.className id := by
  rw [className, className, h.ownerClass_eq]

theorem classRows_eq (h : s.IsAlike s') (e : Entity) : s.classRows e = s'.classRows e := by
  refine Except.bind_congr_of_map (h.refs_alike e.id (some "definein") none false) fun es => ?_
  cases es <;> rfl

theorem methodRows_eq (h : s.IsAlike s') (e : Entity) : s.methodRows e = s'.methodRows e := by
  refine Except.bind_congr_of_map (h.refs_alike e.id (some "define") (some "method") true)
    fun es => ?_
  rw [List.map_map]
  rfl

theorem callRows_eq (h : s.IsAlike s') (relation : String) (e : Entity) :
    s.callRows relation e = s'.callRows relation e := by
  simp only [callRows, h.className_eq]
  cases s'.className e.id with
  | error e => rfl
  | ok ownClass =>
    refine Except.bind_congr_of_map (h.refs_alike e.id (some relation) (some "method") false)
      fun es => ?_
    rw [List.mapM_map]
    rfl

theorem dependencyRows_eq (h : s.IsAlike s') (e : Entity) :
    s.dependencyRows e = s'.dependencyRows e := by
  refine Except.bind_congr_of_map (h.dependencies_alike e.id) fun m => ?_
  simp [DependencyMap.mapEdges, Function.comp_def]

theorem referenceRows_eq (h : s.IsAlike s') (e : Entity) :
    s.referenceRows e = s'.referenceRows e := by
  refine Except.bind_congr_of_map (h.refs_alike e.id none none false) fun es => ?_
  rw [List.map_map]
  rfl

theorem entityRows_eq (h : s.IsAlike s') (kind : ReportKind) (e : Entity) :
    s.entityRows kind e = s'.entityRows kind e := by
  cases kind with
  | classes => exact h.classRows_eq e
  | methods => exact h.methodRows_eq e
  | calls => exact h.callRows_eq "call" e
  | calledBy => exact h.callRows_eq "callby" e
  | depends => exact h.dependencyRows_eq e
  | refs => exact h.referenceRows_eq e

/-- Alike sessions make the same rows of every report. -/
theorem rows_eq (h : s.IsAlike s') (kind : ReportKind) (scope : List Entity) :
    s.rows kind scope = s'.rows kind scope := by
  have hrows : s.entityRows kind = s'.entityRows kind := funext (h.entityRows_eq kind)
  rw [rows, rows, hrows]

/-! ### Listings -/

theorem summary_eq (h : s.IsAlike s') : Listing.summary s = Listing.summary s' := by
  simp only [Listing.summary, Listing.titled, h.select_eq, h.name, h.languages, h.catalog]

theorem classes_eq (h : s.IsAlike s') (filters : FilterConfig) :
    Listing.classes s filters = Listing.classes s' filters := by
  simp only [Listing.classes, h.select_eq]

/-- A listing of references looks at what is seen of them, if each line does. -/
theorem query_refs_eq (h : s.IsAlike s') (id : EntityId) (kinds entityKinds : Option String)
    (unique : Bool) (line : Edge → String) (hline : ∀ e, line e.seen = line e) :
    Listing.query (s.refs id kinds entityKinds unique) (fun es => Listing.ofLines (es.map line)) =
      Listing.query (s'.refs id kinds entityKinds unique)
        fun es => Listing.ofLines (es.map line) := by
  refine Listing.query_congr_of_map (h.refs_alike id kinds entityKinds unique) fun es => ?_
  rw [List.map_map]
  exact congrArg Listing.ofLines (List.map_congr_left fun e _ => hline e)

theorem methods_eq (h : s.IsAlike s') (className : String) :
    Listing.methods s className = Listing.methods s' className := by
  have hlines (c : Entity) := h.query_refs_eq c.id (some "define") (some "method") true
    Listing.methodLine fun _ => rfl
  simp only [Listing.methods, h.require_eq, hlines]

theorem calls_eq (h : s.IsAlike s') (method : String) :
    Listing.calls s method = Listing.calls s' method := by
  have hlines (relation arrow : String) (m : Entity) :=
    h.query_refs_eq m.id (some relation) (some "method") true (Listing.callLine arrow) fun _ => rfl
  simp only [Listing.calls, h.require_eq, hlines]

theorem refs_eq (h : s.IsAlike s') (filters : FilterConfig) (variableName : String) :
    Listing.refs s filters variableName = Listing.refs s' filters variableName := by
  have hlines (v : Entity) := h.query_refs_eq v.id none none false Listing.refLine fun _ => rfl
  simp only [Listing.refs, h.require_eq, hlines]

theorem tokens_eq (h : s.IsAlike s') (selection : TokenSelection) (file : String) (limit : Nat) :
    Listing.tokens s selection file limit = Listing.tokens s' selection file limit := by
  simp only [Listing.tokens, h.require_eq, h.tokenWalk_eq]

/-- A listing of dependencies looks at what is seen of them, if the lines of an entry do. -/
theorem query_dependencies_eq (h : s.IsAlike s') (id : EntityId) (heading : String)
    (lines : Entity × List Edge → List String)
    (hlines : ∀ k es, lines (k, es.map Edge.seen) = lines (k, es)) :
    Listing.query (s.dependencies id) (Listing.dependencyBlock heading lines) =
      Listing.query (s'.dependencies id) (Listing.dependencyBlock heading lines) := by
  refine Listing.query_congr_of_map (h.dependencies_alike id) fun m => ?_
  rw [Listing.dependencyBlock, Listing.dependencyBlock, DependencyMap.mapEdges,
    DependencyMap.isEmpty, DependencyMap.isEmpty, List.isEmpty_map, List.flatMap_map]
  simp only [hlines]

theorem fileDependencies_eq (h : s.IsAlike s') (filters : FilterConfig) :
    Listing.fileDependencies s filters = Listing.fileDependencies s' filters := by
  have hlines (file : Entity) := h.query_dependencies_eq file.id (file.name ++ " depends on:")
    (fun (target, refs) => [Listing.dependencyLine "->" target.name refs]) fun k es => by
      simp only [Listing.dependencyLine, List.length_map]
  simp only [Listing.fileDependencies, h.select_eq, hlines]

end IsAlike

/-- What uses an entity is listed with the number of references, which has no order. -/
theorem query_dependents_eq (h : s.IsOver db config) (h' : s'.IsOver db' config)
    (halike : s.IsAlike s') (id : EntityId) (heading : String)
    (line : Entity → Nat → List String) :
    Listing.query (s.dependents id)
        (Listing.dependencyBlock heading fun (k, es) => line k es.length) =
      Listing.query (s'.dependents id)
        (Listing.dependencyBlock heading fun (k, es) => line k es.length) := by
  obtain ⟨e, hs, hs'⟩ | ⟨m, m', hs, hs', hties⟩ := dependents_alike h h' halike id
  · rw [hs, hs']
  · rw [hs, hs']
    exact hties.dependencyBlock_eq heading line

theorem classBlock_eq (h : s.IsOver db config) (h' : s'.IsOver db' config)
    (halike : s.IsAlike s') (limit : Nat) (c : Entity) :
    Listing.classBlock s limit c = Listing.classBlock s' limit c := by
  have hdependencies := halike.query_dependencies_eq c.id (c.longname ++ " depends on:")
    (Listing.detailedLines limit) (Listing.detailedLines_seen limit)
  have hdependents := query_dependents_eq h h' halike c.id (c.longname ++ " is used by:")
    fun k n => [s!"  <- {k.longname} ({n} references)"]
  rw [Listing.classBlock, Listing.classBlock, hdependencies]
  exact congrArg (_ ++ · ++ _) hdependents

theorem classDependencies_eq (h : s.IsOver db config) (h' : s'.IsOver db' config)
    (halike : s.IsAlike s') (filters : FilterConfig) (limit : Nat) :
    Listing.classDependencies s filters limit = Listing.classDependencies s' filters limit := by
  have hblock : Listing.classBlock s limit = Listing.classBlock s' limit :=
    funext (classBlock_eq h h' halike limit)
  rw [Listing.classDependencies, Listing.classDependencies, halike.select_eq, hblock]

/-! ### Commands -/

namespace IsAlike

theorem reportOf_eq (h : s.IsAlike s') (config : Config) (report : String)
    (filter : Option String) : Command.reportOf s config report filter =
      Command.reportOf s' config report filter := by
  have hscope : Command.scope s config = Command.scope s' config := by
    funext kind filter
    cases filter with
    | none => exact h.select_eq _
    | some filter => exact h.select_eq filter
  rw [Command.reportOf, Command.reportOf, hscope]

theorem runExport_eq (h : s.IsAlike s') (config : Config) (files : FileTree) (sink : Sink)
    (report : String) (output filter : Option String) :
    Command.runExport s config files sink report output filter =
      Command.runExport s' config files sink report output filter := by
  have hwrite : s.writeReport = s'.writeReport := by
    funext kind scope
    unfold writeReport
    rw [h.rows_eq]
  have hexport : s.exportReport = s'.exportReport := by
    funext kind scope
    unfold exportReport
    rw [h.rows_eq]
  have halong : Command.exportAlongPath s = Command.exportAlongPath s' := by
    funext config files sink kind scope
    unfold Command.exportAlongPath
    rw [h.rows_eq]
  -- the session is used in these places only, whatever the output is
  unfold Command.runExport Command.exportToSink
  rw [h.reportOf_eq, hwrite, halong, hexport]

end IsAlike

/-- Every command has the same outcome in alike sessions. -/
theorem run_eq (h : s.IsOver db config) (h' : s'.IsOver db' config) (halike : s.IsAlike s')
    (settings : Config) (files : FileTree) (sink : Sink) (command : Command) :
    Command.run s settings files sink command = Command.run s' settings files sink command := by
  have hprint {l l' : Listing} (hl : l = l') :
      Command.print files sink l = Command.print files sink l' := by rw [hl]
  cases command with
  | summary => exact hprint halike.summary_eq
  | classes => exact hprint (halike.classes_eq settings.filters)
  | methods className => exact hprint (halike.methods_eq className)
  | calls method => exact hprint (halike.calls_eq method)
  | refs variableName => exact hprint (halike.refs_eq settings.filters variableName)
  | lexer file limit => exact hprint (halike.tokens_eq settings.lexer file _)
  | fileDeps => exact hprint (halike.fileDependencies_eq settings.filters)
  | classDeps => exact hprint (classDependencies_eq h h' halike settings.filters _)
  | exportReport report output filter =>
    exact halike.runExport_eq settings files sink report output filter

end Session

end CodeGraph
