import ZoneAccess.Proofs.Path.Resolution
import ZoneAccess.Proofs.Pipeline.Independence
import ZoneAccess.Proofs.Text.Decoding

namespace ZoneAccess

/-!
# The resources that are checked and those that are loaded

A setup check looks at the stored paths byte for byte; a directive names what is left of them as
text, with slashes for backslashes.

* `Directive.encode_slashed_eq_iff` — a path and its name in a directive are the same bytes exactly
  if the path is text without a backslash;
* `Pipeline.checkSetup_stages` — a setup check stops in front of the trial load, or has found both
  files; `Pipeline.checkSetup_congr` says that nothing else of the files counts;
* `Pipeline.loads_of_mem_perform` — whatever a pipeline is used for, its directives load the files
  of these names;
* `Pipeline.loaded_resources` — all of it: when the file that was checked is the one that is loaded.
-/

/-! ### The name of a path in a directive -/

namespace Directive

/-- The byte of a backslash. -/
def backslash : UInt8 := 92

/-- It is among the bytes of a text exactly if a backslash is one of the characters. -/
theorem backslash_mem_encode {s : String} : backslash ∈ Utf8.encode s ↔ Atom.escape ∈ s.toList :=
  Utf8.mem_encodeChars_iff (by decide)

/-- A name has no backslash. -/
theorem escape_not_mem_pathChars (p : Bytes) : Atom.escape ∉ pathChars p := by
  intro h
  obtain ⟨c, -, hc⟩ := List.mem_map.mp h
  split at hc
  · cases hc
  · next hne => exact hne hc

/-- The bytes of a text are named by its characters, with slashes for backslashes. -/
theorem pathChars_encode (s : String) :
    pathChars (Utf8.encode s) = s.toList.map fun c => if c = Atom.escape then '/' else c := by
  rw [pathChars, Utf8.encode, Utf8.decodeCharsLossy_encodeChars]

/-- A path with slashes, as a text, is the text of its characters. -/
theorem slashed_eq (p : Bytes) : slashed p = String.ofList (pathChars p) := rfl

/-- Text without a backslash is its own name. -/
theorem slashed_encode {s : String} (h : Atom.escape ∉ s.toList) :
    slashed (Utf8.encode s) = s := by
  have hkeep : ∀ c ∈ s.toList, (if c = Atom.escape then '/' else c) = c := by
    intro c hc
    rw [if_neg]
    rintro rfl
    exact h hc
  rw [slashed_eq, pathChars_encode, List.map_congr_left hkeep, List.map_id',
    String.ofList_toList]

/-- **A path and its name are the same bytes exactly if the path is text without a backslash.** -/
theorem encode_slashed_eq_iff {p : Bytes} :
    Utf8.encode (slashed p) = p ↔ (Utf8.decode? p).isSome = true ∧ backslash ∉ p := by
  constructor
  · -- The name is text without a backslash, whatever the path is.
    intro h
    constructor
    · rw [← h, Utf8.decode?_encode, Option.isSome_some]
    · rw [← h, backslash_mem_encode, slashed_eq, String.toList_ofList]
      exact escape_not_mem_pathChars p
  · rintro ⟨htext, hbackslash⟩
    obtain ⟨s, hs⟩ := Option.isSome_iff_exists.mp htext
    obtain rfl := Utf8.decode?_eq_some_iff.mp hs
    rw [slashed_encode (mt backslash_mem_encode.mpr hbackslash)]

end Directive

namespace Pipeline

variable {σ : Type} (p : Pipeline) (fs : FileSystem) (e : Engine σ) (d : Desk σ)

/-! ### What is checked -/

/-- A file that can be opened is a file. -/
theorem isFile_of_verifyResource {fs : FileSystem} {label : String} {path : Bytes}
    (h : verifyResource fs label path = .ok ()) : fs.isFile [Path.slash] path = true := by
  rw [verifyResource] at h
  rw [FileSystem.isFile]
  split at h
  · cases h
  · next hlook => rw [hlook]
  · cases h

/-- No file has the empty path. -/
theorem ne_nil_of_isFile {fs : FileSystem} {cwd path : Bytes} (h : fs.isFile cwd path = true) :
    path ≠ [] := by
  rintro rfl
  cases h

/-- A setup check depends on files by its tests of the stored paths only. -/
theorem checkSetup_congr {fs' : FileSystem}
    (hruleBase : verifyResource fs "rule base" p.resources.ruleBase
      = verifyResource fs' "rule base" p.resources.ruleBase)
    (hgrammar : verifyResource fs "grammar" p.resources.grammar
      = verifyResource fs' "grammar" p.resources.grammar) :
    p.checkSetup fs e d = p.checkSetup fs' e d := by
  rw [checkSetup, hruleBase, hgrammar, checkSetup]

/-- A setup check stops in front of the trial load, or has found both files and makes it. -/
theorem checkSetup_stages :
    (∃ m, (p.checkSetup fs e d).1 = .setupError m ∧
      (p.checkSetup fs e d).2.invocations = d.invocations ++ [.version p.program]) ∨
    (verifyResource fs "rule base" p.resources.ruleBase = .ok () ∧
      verifyResource fs "grammar" p.resources.grammar = .ok () ∧
      (p.checkSetup fs e d).2.invocations = d.invocations ++ p.probes) := by
  have hcourse := p.checkSetup_course fs e d
  generalize p.checkSetup fs e d = result at hcourse
  -- What the trial load comes to makes no difference.
  cases hcourse with
  | noVersion | noRuleBase | noGrammar => exact .inl ⟨_, rfl, p.probeVersion_invocations e d⟩
  | notLoaded _ hruleBase hgrammar | ready _ hruleBase hgrammar =>
    exact .inr ⟨hruleBase, hgrammar, p.probeLoad_invocations e d⟩

/-- A setup check that succeeds has found both files and tried to load them. -/
theorem checkSetup_success (h : (p.checkSetup fs e d).1.isSuccess = true) :
    verifyResource fs "rule base" p.resources.ruleBase = .ok () ∧
      verifyResource fs "grammar" p.resources.grammar = .ok () ∧
      (p.checkSetup fs e d).2.invocations = d.invocations ++ p.probes := by
  obtain ⟨m, hstop, -⟩ | hsuccess := p.checkSetup_stages fs e d
  · rw [hstop] at h
    cases h
  · exact hsuccess

/-! ### What is loaded -/

/-- What a use of a pipeline invokes is a probe or the invocation of a query. -/
theorem of_mem_perform {step : Step} {i : Invocation}
    (h : i ∈ (p.perform fs e step d).1.invocations) :
    i ∈ p.probes ∨ ∃ q, i = p.queryInvocation q := by
  cases step with
  | ask question =>
    cases hquestion : p.questionInvocation? question with
    | none =>
      rw [p.perform_ask_of_none fs e d hquestion] at h
      cases h
    | some j =>
      rw [p.perform_ask_of_some fs e d hquestion, List.mem_singleton] at h
      obtain ⟨q, -, -, hq⟩ := p.exists_query_of_questionInvocation? hquestion
      exact .inr ⟨q, h.trans hq⟩
  | checkSetup =>
    rw [perform] at h
    dsimp only [runStep] at h
    -- A check that stops early has made the first of the probes only.
    obtain ⟨m, -, hstop⟩ | ⟨-, -, hmade⟩ := p.checkSetup_stages fs e d
    · rw [hstop, List.drop_left, List.mem_singleton] at h
      exact .inl (h ▸ List.mem_cons_self)
    · rw [hmade, List.drop_left] at h
      exact .inl h

/-- **Whatever a pipeline is used for**, it asks for the engine's version, or tells it to load the
    files that the names of the stored paths stand for. -/
theorem loads_of_mem_perform {step : Step} {i : Invocation}
    (h : i ∈ (p.perform fs e step d).1.invocations) :
    i = .version p.program ∨ ∃ directive errand, i = .directive p.program directive ∧
      Directive.read directive = some ⟨Directive.slashed p.resources.ruleBase,
        Directive.slashed p.resources.grammar, errand⟩ := by
  rcases p.of_mem_perform fs e d h with hprobe | ⟨q, rfl⟩
  · rcases List.mem_cons.mp hprobe with hversion | hload
    · exact .inl hversion
    · exact .inr ⟨_, _, List.mem_singleton.mp hload, Directive.read_probe p.resources⟩
  · exact .inr ⟨_, _, rfl, Directive.read_query p.resources q⟩

/-! ### The file that is checked and the file that is loaded -/

/-- **The file that is checked is the one that is loaded exactly if its stored path is text without
    a backslash.** For all resources, predicates, programs, files and engines, the stored paths
    being the absolute ones:
    * a setup check that succeeds has found a file that can be opened at both, and has had the
      engine try to load the resources; files that it finds the same there change nothing about it;
    * whatever the pipeline is used for, it asks for the engine's version, or gives the engine a
      directive that is read as the names of the stored paths and a goal;
    * the bytes of such a name are those of the path exactly if these are UTF-8 and none of them is
      a backslash; in all other cases another path is named than was checked;
    * so if both paths are of that kind, a setup check that succeeds has found files at both names,
      which start at the root as the working directory does. -/
theorem loaded_resources (predicate : Predicate) (program : String)
    (cwd ruleBase grammar : Bytes) :
    let p : Pipeline := ⟨predicate, program, Resources.resolve cwd ruleBase grammar⟩
    let stored :=
      [("rule base", Path.absolute cwd ruleBase), ("grammar", Path.absolute cwd grammar)]
    ((p.checkSetup fs e d).1.isSuccess = true →
      (∀ r ∈ stored, verifyResource fs r.1 r.2 = .ok ()) ∧
        (p.perform fs e .checkSetup d).1.invocations
          = [.version program, .directive program (Directive.probe p.resources)]) ∧
    (∀ fs' : FileSystem,
      (∀ r ∈ stored, verifyResource fs r.1 r.2 = verifyResource fs' r.1 r.2) →
        p.checkSetup fs e d = p.checkSetup fs' e d) ∧
    (∀ step, ∀ i ∈ (p.perform fs e step d).1.invocations, i = .version program ∨
      ∃ directive instruction, i = .directive program directive ∧
        Directive.read directive = some instruction ∧
        [instruction.ruleBase, instruction.grammar]
          = stored.map fun r => Directive.slashed r.2) ∧
    (∀ r ∈ stored, Utf8.encode (Directive.slashed r.2) = r.2 ↔
      (Utf8.decode? r.2).isSome = true ∧ Directive.backslash ∉ r.2) ∧
    (Path.isAbsolute cwd = true →
      (∀ r ∈ stored, (Utf8.decode? r.2).isSome = true ∧ Directive.backslash ∉ r.2) →
      (p.checkSetup fs e d).1.isSuccess = true →
      ∀ r ∈ stored, Path.isAbsolute (Utf8.encode (Directive.slashed r.2)) = true ∧
        fs.isFile [Path.slash] (Utf8.encode (Directive.slashed r.2)) = true) := by
  intro p stored
  have hverified (h : (p.checkSetup fs e d).1.isSuccess = true) :
      ∀ r ∈ stored, verifyResource fs r.1 r.2 = .ok () := by
    obtain ⟨hruleBase, hgrammar, -⟩ := p.checkSetup_success fs e d h
    exact List.forall_mem_cons.mpr ⟨hruleBase, List.forall_mem_singleton.mpr hgrammar⟩
  refine ⟨fun h => ⟨hverified h, ?_⟩, fun fs' h => ?_, fun step i hi => ?_,
    fun r _ => Directive.encode_slashed_eq_iff, fun hcwd hplain h r hr => ?_⟩
  · rw [perform]
    dsimp only [runStep]
    rw [(p.checkSetup_success fs e d h).2.2, List.drop_left, probes]
  · have hruleBase := h ("rule base", _) List.mem_cons_self
    have hgrammar := h ("grammar", _) (List.mem_cons_of_mem _ List.mem_cons_self)
    exact p.checkSetup_congr fs e d hruleBase hgrammar
  · obtain hversion | ⟨directive, errand, hi, hread⟩ := p.loads_of_mem_perform fs e d hi
    · exact .inl hversion
    · exact .inr ⟨directive, _, hi, hread, rfl⟩
  · have hfile := isFile_of_verifyResource (hverified h r hr)
    rw [Directive.encode_slashed_eq_iff.mpr (hplain r hr)]
    refine ⟨?_, hfile⟩
    -- An empty path stays empty, and is not that of a file.
    have habsolute (path : Bytes) (hr : r.2 = Path.absolute cwd path) :
        Path.isAbsolute r.2 = true := by
      rw [hr] at hfile ⊢
      refine Path.isAbsolute_absolute hcwd ?_
      rintro rfl
      exact ne_nil_of_isFile hfile rfl
    rcases List.mem_cons.mp hr with hr | hr
    · exact habsolute ruleBase (by rw [hr])
    · exact habsolute grammar (by rw [List.mem_singleton.mp hr])

/-- Files called `k` and `\\` in a directory `/w`, both of which pass the check: the first is
    loaded, and for the second another one. -/
theorem loaded_resources_backslash :
    let file : Node := .file ⟨[], false, none⟩
    let fs : FileSystem := ⟨[([[119], [107]], file), ([[119], [92]], file)]⟩
    let p (ruleBase : Bytes) : Pipeline :=
      ⟨⟨"process_tokens", rfl⟩, "swipl", Resources.resolve [47, 119] ruleBase [107]⟩
    let d : Desk Script := Desk.fresh [⟨false, .report ⟨.exited 0, "9.2", ""⟩⟩,
      ⟨false, .report ⟨.exited 0, Directive.sentinel, ""⟩⟩]
    Path.isAbsolute [47, 119] = true ∧
    ((p [107]).checkSetup fs Script.engine d).1.isSuccess = true ∧
    ((p [92]).checkSetup fs Script.engine d).1.isSuccess = true ∧
    Path.isAbsolute (Utf8.encode (Directive.slashed [47, 119, 47, 107])) = true ∧
    fs.isFile [Path.slash] (Utf8.encode (Directive.slashed [47, 119, 47, 107])) = true ∧
    Utf8.encode (Directive.slashed [47, 119, 47, 92]) ≠ [47, 119, 47, 92] := by
  intro file fs p d
  have hcwd : Path.isAbsolute [47, 119] = true := rfl
  have hplain : ((p [107]).checkSetup fs Script.engine d).1.isSuccess = true := by
    decide +kernel +revert
  have hother : ((p [92]).checkSetup fs Script.engine d).1.isSuccess = true := by
    decide +kernel +revert
  have hnamed := (loaded_resources fs Script.engine d ⟨"process_tokens", rfl⟩ "swipl" [47, 119]
    [92] [107]).2.2.2.1 ("rule base", [47, 119, 47, 92]) List.mem_cons_self
  have hfiles := (loaded_resources fs Script.engine d ⟨"process_tokens", rfl⟩ "swipl" [47, 119]
    [107] [107]).2.2.2.2 hcwd (by decide) hplain ("rule base", [47, 119, 47, 107])
      List.mem_cons_self
  exact ⟨hcwd, hplain, hother, hfiles.1, hfiles.2, fun h => (hnamed.mp h).2 (by decide)⟩

end Pipeline

end ZoneAccess
