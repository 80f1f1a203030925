import ZoneAccess.Proofs.Directive.Reader

namespace ZoneAccess.Directive

/-!
# The structure of directives

Whatever stands in a question or in a path, a directive says what it was made to say.

* `read_query`, `read_probe` — reading a directive gives back the two paths, the predicate
  and the tokens, and nothing is left over;
* `noControl_text` — a directive has no control characters;
* `query_structure` — both together, from the text of a question on, with what follows
  from them: directives differ as soon as one of the four parts differs, and a query is
  never a probe.
-/

/-! ### Reading the parts -/

/-- A mark is skipped. -/
theorem behind?_append (mark : String) (cs : List Char) :
    behind? mark (mark.toList ++ cs) = some cs := by
  simp [behind?, List.isPrefixOf_iff_prefix]

/-- An atom with a comma behind it is followed by more atoms. -/
theorem readAtoms_of_comma {cs atom rest : List Char}
    (h : Atom.read cs = some (atom, ',' :: rest)) :
    readAtoms cs
      = (readAtoms rest).map fun (atoms, rest) => (String.ofList atom :: atoms, rest) := by
  rw [readAtoms]
  -- Of the three ways on, only the second has a comma behind the atom.
  split
  · simp_all
  · next h' =>
    rw [h'] at h
    obtain ⟨rfl, rfl⟩ : _ ∧ _ := by simpa using h
    cases readAtoms _ <;> rfl
  · simp_all

/-- An atom with something else behind it, or nothing, is the last. -/
theorem readAtoms_of_ne_comma {cs atom rest : List Char}
    (h : Atom.read cs = some (atom, rest)) (hc : rest.head? ≠ some ',') :
    readAtoms cs = some ([String.ofList atom], rest) := by
  rw [readAtoms]
  split
  · simp_all
  · next h' =>
    rw [h'] at h
    obtain ⟨-, rfl⟩ : _ ∧ _ := by simpa using h
    exact absurd rfl hc
  · simp_all

/-- Quoted atoms with commas between them are read one after the other, up to something that
    goes on with neither an atom nor the list. -/
theorem readAtoms_intercalate (atoms : List (List Char)) (h : atoms ≠ []) {rest : List Char}
    (hd : rest.head? ≠ some Atom.delimiter) (hc : rest.head? ≠ some ',') :
    readAtoms ([','].intercalate (atoms.map Atom.quoteChars) ++ rest)
      = some (atoms.map String.ofList, rest) := by
  induction atoms with
  | nil => exact absurd rfl h
  | cons atom atoms ih =>
    cases atoms with
    | nil =>
      rw [List.map_singleton, List.intercalate_singleton,
        readAtoms_of_ne_comma (Atom.read_quoteChars atom rest hd) hc]
      rfl
    | cons next atoms =>
      -- A comma does not go on with an atom, so that the first atom ends in front of it.
      have hcomma : (',' :: ([','].intercalate ((next :: atoms).map Atom.quoteChars) ++
          rest)).head? ≠ some Atom.delimiter := by
        rw [List.head?_cons]; decide
      rw [List.map_cons, List.map_cons, List.intercalate_cons_cons, ← List.map_cons,
        List.append_assoc, List.append_assoc, List.singleton_append,
        readAtoms_of_comma (Atom.read_quoteChars atom _ hcomma), ih (by simp)]
      rfl

/-- Every character of a plain name may stand in a name. -/
theorem isNameChar_of_mem {name : List Char} (h : isPlainName name = true) {c : Char}
    (hc : c ∈ name) : isNameChar c = true := by
  cases name with
  | nil => simp at hc
  | cons d name =>
    simp only [isPlainName, Bool.and_eq_true, List.all_eq_true] at h
    rcases List.mem_cons.mp hc with rfl | hc
    · simp [isNameChar, h.1]
    · exact h.2 c hc

/-- A plain name is read up to its end. -/
theorem readGoal_append {name rest : List Char} (h : isPlainName name = true)
    (hrest : ∀ c ∈ rest.head?, isNameChar c = false) :
    readGoal (name ++ rest) = readErrand name rest := by
  have hname : ∀ d ∈ name, isNameChar d = true := fun d hd => isNameChar_of_mem h hd
  rw [readGoal, List.takeWhile_append_of_pos hname, List.dropWhile_append_of_pos hname]
  -- The name ends at the first character that no name has, or with the text.
  cases rest with
  | nil => simp [h]
  | cons c rest => simp [hrest c rfl, h]

/-! ### Reading the goals -/

/-- The goal of a query is read as the call of its predicate on its tokens. -/
theorem readGoal_query (q : Query) (rest : List Char) :
    readGoal (goalChars (.query q) ++ rest) = some (.call q.predicate.name q.tokens, rest) := by
  have htokens : q.tokens.map String.toList ≠ [] := by simpa using q.tokens_ne_nil
  have hdelimiter : ("])".toList ++ rest).head? ≠ some Atom.delimiter := by simp; decide
  have hcomma : ("])".toList ++ rest).head? ≠ some ',' := by simp
  have hatoms := readAtoms_intercalate (q.tokens.map String.toList) htokens hdelimiter hcomma
  -- The closing bracket goes to the rest, in front of which the last atom ends.
  have hgoal : goalChars (.query q) ++ rest = q.predicate.name.toList ++ ("([".toList ++
      ([','].intercalate ((q.tokens.map String.toList).map Atom.quoteChars) ++
        ("])".toList ++ rest))) := by
    simp only [goalChars, Query.text, Query.chars, String.toList_ofList, List.append_assoc]
  rw [hgoal, readGoal_append q.predicate.plain (by simp; decide), readErrand, behind?_append]
  simp only [Option.bind_eq_bind, Option.pure_def]
  rw [hatoms, Option.bind_some, behind?_append, Option.bind_some, String.ofList_toList,
    List.map_map]
  simp [Function.comp_def]

/-- The goal of the probe is read as the writing of its sentinel. -/
theorem readGoal_probe (rest : List Char) :
    readGoal (goalChars .probe ++ rest) = some (.write sentinel, rest) := by
  have hatom := Atom.read_quoteChars sentinel.toList ("), nl".toList ++ rest) (by simp; decide)
  have hgoal : goalChars .probe ++ rest = "write".toList ++ ("(".toList ++
      (Atom.quoteChars sentinel.toList ++ ("), nl".toList ++ rest))) := by
    unfold goalChars probeChars
    simp
  -- What follows the parenthesis is a quote, so that no list is read.
  have hlist : behind? "([" ("(".toList ++ (Atom.quoteChars sentinel.toList ++
      ("), nl".toList ++ rest))) = none := by
    simp [behind?, Atom.quoteChars]; decide
  rw [hgoal, readGoal_append (by decide) (by simp; decide), readErrand, hlist]
  simp only [Option.bind_eq_bind, Option.pure_def]
  rw [if_pos trivial, behind?_append, Option.bind_some, hatom, Option.bind_some, behind?_append,
    Option.bind_some, String.ofList_toList]

/-! ### Reading directives -/

/-- A directive is read as its two paths and its goal, and nothing is left over. -/
theorem read_text (r : Resources) {goal : Goal} {errand : Errand}
    (h : ∀ rest, readGoal (goalChars goal ++ rest) = some (errand, rest)) :
    read (text r goal)
      = some ⟨String.ofList (pathChars r.ruleBase), String.ofList (pathChars r.grammar),
          errand⟩ := by
  have hend := behind?_append ", halt)" []
  have hgrammar := Atom.read_quoteChars (pathChars r.grammar)
    ("), ".toList ++ (goalChars goal ++ ", halt)".toList)) (by simp; decide)
  have hruleBase := Atom.read_quoteChars (pathChars r.ruleBase)
    ("), consult(".toList ++ (Atom.quoteChars (pathChars r.grammar) ++
      ("), ".toList ++ (goalChars goal ++ ", halt)".toList)))) (by simp; decide)
  rw [List.append_nil] at hend
  -- From left to right: each mark is skipped, and each part leaves what stands behind it.
  have hchars : readChars (chars r (goalChars goal))
      = some (⟨String.ofList (pathChars r.ruleBase), String.ofList (pathChars r.grammar),
          errand⟩, []) := by
    unfold readChars chars
    simp only [List.append_assoc, Option.bind_eq_bind, Option.pure_def]
    rw [behind?_append, Option.bind_some, hruleBase, Option.bind_some, behind?_append,
      Option.bind_some, hgrammar, Option.bind_some, behind?_append, Option.bind_some, h,
      Option.bind_some, hend, Option.bind_some]
  rw [read, text, String.toList_ofList, hchars]

/-- The directive of a query is read as the call of its predicate on its tokens. -/
theorem read_query (r : Resources) (q : Query) :
    read (query r q)
      = some ⟨String.ofList (pathChars r.ruleBase), String.ofList (pathChars r.grammar),
          .call q.predicate.name q.tokens⟩ :=
  read_text r (readGoal_query q)

/-- The directive of the probe is read as the writing of the sentinel. -/
theorem read_probe (r : Resources) :
    read (probe r)
      = some ⟨String.ofList (pathChars r.ruleBase), String.ofList (pathChars r.grammar),
          .write sentinel⟩ :=
  read_text r readGoal_probe

/-- Two queries with one directive agree in everything that the directive is made of. -/
theorem eq_of_query_eq {r r' : Resources} {q q' : Query} (h : query r q = query r' q') :
    pathChars r.ruleBase = pathChars r'.ruleBase ∧ pathChars r.grammar = pathChars r'.grammar ∧
      q.predicate = q'.predicate ∧ q.tokens = q'.tokens := by
  -- One text has one reading, and both queries can be read off it.
  have hread := read_query r q
  rw [h, read_query r' q'] at hread
  simp only [Option.some.injEq, Instruction.mk.injEq, Errand.call.injEq,
    String.ofList_inj] at hread
  obtain ⟨hruleBase, hgrammar, hname, htokens⟩ := hread
  refine ⟨hruleBase.symm, hgrammar.symm, ?_, htokens.symm⟩
  obtain ⟨⟨name, _⟩, _, _⟩ := q
  obtain ⟨⟨name', _⟩, _, _⟩ := q'
  simp_all

/-- The directive of a query is that of no probe, whatever files each of them loads. -/
theorem query_ne_probe (r r' : Resources) (q : Query) : query r q ≠ probe r' := by
  intro h
  have hread := read_query r q
  rw [h, read_probe r'] at hread
  simp at hread

/-! ### Control characters -/

/-- What may stand in a name is no control character. -/
theorem isControl_of_isNameChar {c : Char} (h : isNameChar c = true) :
    Text.isControl c = false := by
  -- Digits, letters and the underscore all lie between the two ranges of control characters.
  have hrange : 48 ≤ c.toNat ∧ c.toNat ≤ 122 := by
    simp only [isNameChar, isSmallLetter, Bool.or_eq_true, Bool.and_eq_true, decide_eq_true_eq,
      beq_iff_eq] at h
    rcases h with ((h | h) | h) | rfl
    · omega
    · omega
    · omega
    · decide
  simp only [Text.isControl, Bool.or_eq_false_iff, Bool.and_eq_false_iff, decide_eq_false_iff_not]
  omega

/-- Quoted atoms and the commas between them have no control characters. -/
theorem noControl_intercalate (atoms : List (List Char)) :
    Atom.NoControl ([','].intercalate (atoms.map Atom.quoteChars)) := by
  induction atoms with
  | nil => intro c hc; simp at hc
  | cons atom atoms ih =>
    -- The last atom has no comma behind it.
    cases atoms with
    | nil =>
      rw [List.map_singleton, List.intercalate_singleton]
      exact Atom.noControl_quoteChars atom
    | cons next atoms =>
      have hcomma : Atom.NoControl [','] := Atom.noControl_singleton (by decide)
      rw [List.map_cons, List.map_cons, List.intercalate_cons_cons, ← List.map_cons]
      exact ((Atom.noControl_quoteChars atom).append hcomma).append ih

/-- The fixed parts of directives. -/
def marks : List String :=
  ["(consult(", "), consult(", "), ", ", halt)", "([", "])", "write(", "), nl"]

/-- The marks of a directive hold no control characters. -/
theorem noControl_mark : ∀ mark ∈ marks, Atom.NoControl mark.toList := by
  simp [marks, Atom.NoControl]; decide

/-- A goal has no control characters. -/
theorem noControl_goalChars (goal : Goal) : Atom.NoControl (goalChars goal) := by
  cases goal with
  | query q =>
    have hname : Atom.NoControl q.predicate.name.toList := fun c hc =>
      isControl_of_isNameChar (isNameChar_of_mem q.predicate.plain hc)
    have hopen := noControl_mark "([" (by simp [marks])
    have hclose := noControl_mark "])" (by simp [marks])
    simp only [goalChars, Query.text, Query.chars, String.toList_ofList]
    exact ((hname.append hopen).append (noControl_intercalate _)).append hclose
  | probe =>
    have hopen := noControl_mark "write(" (by simp [marks])
    have hclose := noControl_mark "), nl" (by simp [marks])
    exact (hopen.append (Atom.noControl_quoteChars _)).append hclose

/-- A directive has no control characters. -/
theorem noControl_text (r : Resources) (goal : Goal) :
    Atom.NoControl (text r goal).toList := by
  have hfirst := noControl_mark "(consult(" (by simp [marks])
  have hsecond := noControl_mark "), consult(" (by simp [marks])
  have hthird := noControl_mark "), " (by simp [marks])
  have hend := noControl_mark ", halt)" (by simp [marks])
  have hquoted (p : Bytes) := Atom.noControl_quoteChars (pathChars p)
  rw [text, String.toList_ofList]
  exact (((((hfirst.append (hquoted _)).append hsecond).append (hquoted _)).append hthird).append
    (noControl_goalChars goal)).append hend

/-! ### From a question to its directive -/

/-- A path as text: undecodable parts replaced, and a slash for every backslash. -/
def slashed (p : Bytes) : String :=
  String.ofList ((Utf8.decodeCharsLossy p).map fun c => if c = '\\' then '/' else c)

/-- **No text changes the structure of a directive.** For all paths, names and questions:
    * a question with a token has a directive, and the whole of it reads as the two paths,
      the name and the tokens of the question, in order;
    * queries with the same directive have the same paths, predicate and tokens;
    * the directive of a query is that of no probe;
    * no directive has a control character. -/
theorem query_structure :
    (∀ (r : Resources) (name question : String) (predicate : Predicate),
      Predicate.ofName name = .ok predicate → Question.tokens question ≠ [] →
      ∃ q, Query.ofQuestion predicate question = .ok q ∧
        read (query r q) = some {
          ruleBase := slashed r.ruleBase
          grammar := slashed r.grammar
          errand := .call name (Question.tokens question) }) ∧
    (∀ (r r' : Resources) (q q' : Query), query r q = query r' q' →
      slashed r.ruleBase = slashed r'.ruleBase ∧ slashed r.grammar = slashed r'.grammar ∧
        q.predicate = q'.predicate ∧ q.tokens = q'.tokens) ∧
    (∀ (r r' : Resources) (q : Query), query r q ≠ probe r') ∧
    (∀ (r : Resources) (goal : Goal), ∀ c ∈ (text r goal).toList, Text.isControl c = false) := by
  refine ⟨?_, ?_, query_ne_probe, fun r goal => noControl_text r goal⟩
  · intro r name question predicate hname htokens
    have hpredicate : predicate.name = name := Predicate.name_of_ofName hname
    refine ⟨_, Query.ofQuestion_of_tokens htokens, ?_⟩
    rw [read_query, hpredicate]
    rfl
  · intro r r' q q' h
    obtain ⟨hruleBase, hgrammar, hquery⟩ := eq_of_query_eq h
    exact ⟨congrArg String.ofList hruleBase, congrArg String.ofList hgrammar, hquery⟩

/-- A question and paths full of quotes, escapes and brackets, with a predicate that is
    called like the goal of the probe. -/
theorem query_structure_hostile :
    Predicate.ofName "write" = .ok ⟨"write", rfl⟩ ∧
    Question.tokens "It's \\x41\\ ]), HALT" ≠ [] ∧
    ∃ q, Query.ofQuestion ⟨"write", rfl⟩ "It's \\x41\\ ]), HALT" = .ok q ∧
      read (query ⟨[47, 39, 92, 255], [10, 41]⟩ q)
        = some ⟨"/'/\uFFFD", "\n)", .call "write" ["it's", "\\x41\\", "])", "halt"]⟩ := by
  have htokens : Question.tokens "It's \\x41\\ ]), HALT" ≠ [] := by decide +kernel
  obtain ⟨q, hq, hread⟩ := query_structure.1 ⟨[47, 39, 92, 255], [10, 41]⟩ "write"
    "It's \\x41\\ ]), HALT" ⟨"write", rfl⟩ rfl htokens
  refine ⟨rfl, htokens, q, hq, hread.trans ?_⟩
  decide +kernel

end ZoneAccess.Directive
