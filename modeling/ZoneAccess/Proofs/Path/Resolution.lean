import ZoneAccess.Directive
import ZoneAccess.Proofs.Text.Lines

namespace ZoneAccess

/-!
# Paths that are resolved once and for all

What a path becomes when it is stored, whatever its slashes and dots.

* `Path.isAbsolute_absolute` — the stored path of a resource starts at the root;
* `Path.IsName` — what counts as a component: it is not empty, not `.`, and has no slash;
* `Path.spelled` — the form of stored paths: one leading slash or two, names with single slashes
  between them, and perhaps a slash at the end;
* `Path.absolute_eq_spelled` — a path is stored in this form;
* `Path.absolute_spelled` — what has this form is left as it is, from wherever it is seen;
* `Resources.resolve_normal` — so the resources are stored under absolute paths in normal form,
  which keep every name and every `..`, and to resolve them again changes nothing.
-/

namespace Path

variable {p q cwd : Bytes}

/-! ### Where a path starts -/

/-- An absolute path is not empty. -/
theorem ne_nil_of_isAbsolute (h : isAbsolute p = true) : p ≠ [] := by
  rintro rfl
  cases h

/-- Where a path starts does not depend on how it goes on. -/
theorem isAbsolute_append (h : isAbsolute p = true) (q : Bytes) : isAbsolute (p ++ q) = true := by
  cases p with
  | nil => cases h
  | cons b p => exact h

/-- To end an absolute path in a slash leaves it absolute. -/
theorem isAbsolute_withSlash (h : isAbsolute p = true) : isAbsolute (withSlash p) = true := by
  rw [withSlash]
  split
  · exact h
  · exact isAbsolute_append h _

/-- To push a name behind an absolute path leaves it absolute. -/
theorem isAbsolute_push (h : isAbsolute p = true) (name : Bytes) :
    isAbsolute (push p name) = true := by
  rw [push, if_neg (ne_nil_of_isAbsolute h)]
  exact isAbsolute_append (isAbsolute_withSlash h) name

/-- So do any number of names. -/
theorem isAbsolute_foldl_push (h : isAbsolute p = true) (names : List Bytes) :
    isAbsolute (names.foldl push p) = true := by
  induction names generalizing p with
  | nil => exact h
  | cons name names ih => exact ih (isAbsolute_push h name)

/-- The root of a path is absolute. -/
theorem isAbsolute_root (p : Bytes) : isAbsolute (root p) = true := by
  rw [root]
  split
  · rfl
  · rfl

/-- Seen from an absolute directory, every path but the empty one is absolute. -/
theorem isAbsolute_absolute {cwd : Bytes} (hcwd : isAbsolute cwd = true) (hp : p ≠ []) :
    isAbsolute (absolute cwd p) = true := by
  have hstart : isAbsolute (if isAbsolute p then root p else cwd) = true := by
    split
    · exact isAbsolute_root p
    · exact hcwd
  have hbase := isAbsolute_foldl_push hstart (names p)
  rw [absolute, if_neg hp]
  dsimp only
  split
  · exact isAbsolute_withSlash hbase
  · exact hbase

/-- Exactly two slashes lead. -/
def TwoSlashes (p : Bytes) : Prop := [slash, slash] <+: p ∧ ¬ [slash, slash, slash] <+: p

/-- The root of a path with exactly two slashes in front is these two. -/
theorem root_of_twoSlashes (h : TwoSlashes p) : root p = [slash, slash] := by
  have hthree : [slash, slash, slash].isPrefixOf p = false := by
    rw [Bool.eq_false_iff]
    exact fun h' => h.2 (List.isPrefixOf_iff_prefix.mp h')
  rw [root, List.isPrefixOf_iff_prefix.mpr h.1, hthree]
  rfl

/-- Any other path has a root of one slash. -/
theorem root_of_not_twoSlashes (h : ¬ TwoSlashes p) : root p = [slash] := by
  rw [root, if_neg]
  -- The root would be two slashes only if they lead and no third does.
  intro hlead
  rw [Bool.and_eq_true, List.isPrefixOf_iff_prefix, Bool.not_eq_true'] at hlead
  refine h ⟨hlead.1, fun hthree => ?_⟩
  rw [List.isPrefixOf_iff_prefix.mpr hthree] at hlead
  cases hlead.2

/-- A path that does not start at the root has no leading slash at all. -/
theorem not_twoSlashes (h : isAbsolute p = false) : ¬ TwoSlashes p := by
  rintro ⟨⟨rest, rfl⟩, -⟩
  cases h

/-! ### Components -/

/-- A component that counts. -/
structure IsName (w : Bytes) : Prop where
  ne_nil : w ≠ []
  ne_here : w ≠ here
  slash_not_mem : slash ∉ w

/-- The names of a path are names. -/
theorem isName_of_mem_names {w : Bytes} (h : w ∈ names p) : IsName w := by
  obtain ⟨hcut, hw⟩ := List.mem_filter.mp h
  rw [Bool.not_eq_true', Bool.or_eq_false_iff] at hw
  refine ⟨by simpa using hw.1, by simpa [here] using hw.2, fun hslash => ?_⟩
  -- What is cut out lies between slashes.
  obtain ⟨before, after, hsplit⟩ := List.append_of_mem hcut
  obtain ⟨_, _, -, hstretch, -⟩ := exists_stretch_of_cut hsplit
  simpa using hstretch.clean slash hslash

/-- A slash in front divides off an empty component. -/
theorem cut_slash_cons (q : Bytes) : cut (· == slash) (slash :: q) = [] :: cut (· == slash) q :=
  cut_append_cons (by simp) [] q

/-- So does a slash at the end. -/
theorem cut_concat_slash (q : Bytes) :
    cut (· == slash) (q ++ [slash]) = cut (· == slash) q ++ [[]] :=
  cut_append_cons (by simp) q []

/-- Names with a slash in front of each but the first are cut into the names. -/
theorem cut_names {w : Bytes} {ws : List Bytes} (hw : slash ∉ w) (hws : ∀ v ∈ ws, slash ∉ v) :
    cut (· == slash) (w ++ ws.flatMap (slash :: ·)) = w :: ws := by
  have hclean {v : Bytes} (hv : slash ∉ v) : cut (· == slash) v = [v] := by
    refine cut_eq_singleton fun x hx => ?_
    simp only [beq_eq_false_iff_ne]
    rintro rfl
    exact hv hx
  -- On the names behind the first: the first is cut off at the slash of the next.
  induction ws generalizing w with
  | nil => rw [List.flatMap_nil, List.append_nil, hclean hw]
  | cons v ws ih =>
    have hrest := ih (hws v List.mem_cons_self) fun u hu => hws u (List.mem_cons_of_mem v hu)
    rw [List.flatMap_cons, List.cons_append, cut_append_cons (by simp), hclean hw, hrest]
    rfl

/-- Names with slashes between them: all but the first have one in front. -/
theorem intercalate_cons (w : Bytes) (ws : List Bytes) :
    [slash].intercalate (w :: ws) = w ++ ws.flatMap (slash :: ·) := by
  induction ws generalizing w with
  | nil => simp [List.intercalate]
  | cons v ws ih => simp [List.intercalate_cons_cons, ih v]

/-! ### The form of stored paths -/

/-- A path with its slashes where they belong: those that lead, one between any two names, and one
    at the end or not. -/
def spelled (start : Bytes) (ws : List Bytes) (closes : Bool) : Bytes :=
  start ++ [slash].intercalate ws ++ if closes && !ws.isEmpty then [slash] else []

/-- One leading slash, or two. -/
def Opening (start : Bytes) : Prop := start = [slash] ∨ start = [slash, slash]

/-- Without names a path is spelled as its beginning, with or without a closing slash. -/
theorem spelled_nil (start : Bytes) (closes : Bool) : spelled start [] closes = start := by
  simp [spelled]

/-- With names, a path is spelled as its beginning, the first name, and the others each behind a
    slash. -/
theorem spelled_cons (start w : Bytes) (ws : List Bytes) (closes : Bool) :
    spelled start (w :: ws) closes
      = start ++ (w ++ ws.flatMap (slash :: ·) ++ if closes then [slash] else []) := by
  simp [spelled, intercalate_cons]

/-- A directory in normal form: a slash, and names with single slashes between them. -/
def IsNormal (cwd : Bytes) : Prop := cwd = slash :: [slash].intercalate (names cwd)

/-- Whether a directory is in normal form can be decided. -/
instance (cwd : Bytes) : Decidable (IsNormal cwd) := inferInstanceAs (Decidable (_ = _))

/-- A directory in normal form is one slash and its names, without a slash at the end. -/
theorem isNormal_iff : IsNormal cwd ↔ cwd = spelled [slash] (names cwd) false := by
  simp [IsNormal, spelled]

/-- Whether a path ends in a slash is a matter of its last part. -/
theorem endsInSlash_append (p : Bytes) (hq : q ≠ []) : endsInSlash (p ++ q) = endsInSlash q := by
  obtain ⟨b, hb⟩ := Option.ne_none_iff_exists'.mp (mt List.getLast?_eq_none_iff.mp hq)
  simp [endsInSlash, List.getLast?_append, hb]

/-- A name does not end in a slash. -/
theorem IsName.endsInSlash {w : Bytes} (h : IsName w) : endsInSlash w = false := by
  rw [Path.endsInSlash, beq_eq_false_iff_ne]
  exact fun hlast => h.slash_not_mem (List.mem_of_getLast? hlast)

/-- Behind a name, every further one gets a slash in front. -/
theorem foldl_push_of_not_endsInSlash {base : Bytes} {ws : List Bytes} (hbase : base ≠ [])
    (hend : endsInSlash base = false) (hws : ∀ w ∈ ws, IsName w) :
    ws.foldl push base = base ++ ws.flatMap (slash :: ·) := by
  induction ws generalizing base with
  | nil => simp
  | cons w ws ih =>
    have hw := hws w List.mem_cons_self
    have hpush : push base w = base ++ slash :: w := by
      simp [push, withSlash, hbase, hend]
    rw [List.foldl_cons, hpush, ih (by simp) _ fun v hv => hws v (List.mem_cons_of_mem w hv)]
    · simp
    · rw [endsInSlash_append _ (List.cons_ne_nil slash w),
        show slash :: w = [slash] ++ w from rfl, endsInSlash_append _ hw.ne_nil, hw.endsInSlash]

/-- Names put behind leading slashes one after the other. -/
theorem foldl_push_start {start : Bytes} {ws : List Bytes} (hstart : Opening start)
    (hws : ∀ w ∈ ws, IsName w) : ws.foldl push start = spelled start ws false := by
  cases ws with
  | nil => rw [spelled_nil, List.foldl_nil]
  | cons w ws =>
    have hw := hws w List.mem_cons_self
    -- Behind leading slashes the first name gets none of its own.
    have hpush : push start w = start ++ w := by
      obtain rfl | rfl := hstart
      · rfl
      · rfl
    rw [List.foldl_cons, hpush, foldl_push_of_not_endsInSlash (by simp [hw.ne_nil])
      (by rw [endsInSlash_append _ hw.ne_nil, hw.endsInSlash])
      fun v hv => hws v (List.mem_cons_of_mem w hv)]
    simp [spelled_cons]

/-- Names with slashes between them end in a name. -/
theorem endsInSlash_names {w : Bytes} {ws : List Bytes} (hw : IsName w)
    (hws : ∀ v ∈ ws, IsName v) : endsInSlash (w ++ ws.flatMap (slash :: ·)) = false := by
  induction ws generalizing w with
  | nil => rw [List.flatMap_nil, List.append_nil, hw.endsInSlash]
  | cons v ws ih =>
    have hv := hws v List.mem_cons_self
    have hrest := ih hv fun u hu => hws u (List.mem_cons_of_mem v hu)
    rw [show w ++ (v :: ws).flatMap (slash :: ·) = (w ++ [slash]) ++ (v ++ ws.flatMap (slash :: ·))
      by simp, endsInSlash_append _ (by simp [hv.ne_nil]), hrest]

/-! ### Repeated slashes -/

/-- A repeated slash does not begin inside a name. -/
theorem repeated_of_append {w q : Bytes} (hw : slash ∉ w) (h : [slash, slash] <:+: w ++ q) :
    [slash, slash] <:+: q := by
  -- Byte by byte, the name is passed: a repeated slash that began in it would be one of its bytes.
  induction w with
  | nil => exact h
  | cons b w ih =>
    rw [List.mem_cons, not_or] at hw
    rw [List.cons_append, List.infix_cons_iff] at h
    obtain h | h := h
    · exact absurd (List.cons_prefix_cons.mp h).1 hw.1
    · exact ih hw.2 h

/-- Names with a slash in front of each repeat none, whether or not another one closes them. -/
theorem not_repeated {ws : List Bytes} (hws : ∀ w ∈ ws, IsName w) {tail : Bytes}
    (htail : tail = [] ∨ tail = [slash]) :
    ¬ [slash, slash] <:+: ws.flatMap (slash :: ·) ++ tail := by
  induction ws with
  | nil =>
    obtain rfl | rfl := htail
    · decide
    · decide
  | cons w ws ih =>
    have hw := hws w List.mem_cons_self
    rw [List.flatMap_cons, List.cons_append, List.cons_append, List.append_assoc,
      List.infix_cons_iff]
    rintro (h | h)
    · -- The second slash would be the first byte of the name.
      obtain ⟨b, w', rfl⟩ := List.exists_cons_of_ne_nil hw.ne_nil
      have hfirst := (List.cons_prefix_cons.mp (List.cons_prefix_cons.mp h).2).1
      exact hw.slash_not_mem (hfirst ▸ List.mem_cons_self)
    · exact ih (fun v hv => hws v (List.mem_cons_of_mem w hv))
        (repeated_of_append hw.slash_not_mem h)

section Form

variable {start : Bytes} {ws : List Bytes} (hstart : Opening start) (hws : ∀ w ∈ ws, IsName w)
  (closes : Bool)
include hstart hws

/-- A path of this form ends in a slash if one closes it, or if it has no names. -/
theorem endsInSlash_spelled : endsInSlash (spelled start ws closes) = (ws.isEmpty || closes) := by
  cases ws with
  | nil =>
    rw [spelled_nil]
    obtain rfl | rfl := hstart
    · rfl
    · rfl
  | cons w ws =>
    have hw := hws w List.mem_cons_self
    have hnames := endsInSlash_names hw fun v hv => hws v (List.mem_cons_of_mem w hv)
    rw [spelled_cons, endsInSlash_append _ (by simp [hw.ne_nil])]
    cases closes with
    | false => simpa using hnames
    | true =>
      rw [if_pos rfl, endsInSlash_append _ (List.cons_ne_nil slash [])]
      rfl

omit hws in
/-- What is spelled from an opening is an absolute path. -/
theorem isAbsolute_spelled : isAbsolute (spelled start ws closes) = true := by
  rw [spelled, List.append_assoc]
  refine isAbsolute_append ?_ _
  obtain rfl | rfl := hstart
  · rfl
  · rfl

/-- It is cut into its names, and into something empty for each slash at either end. -/
theorem cut_spelled : ∃ front back,
    cut (· == slash) (spelled start ws closes) = front ++ ws ++ back ∧
    ∀ w ∈ front ++ back, w = [] := by
  -- Each leading slash divides off something empty.
  have hlead (q : Bytes) : ∃ front, cut (· == slash) (start ++ q) = front ++ cut (· == slash) q ∧
      ∀ w ∈ front, w = [] := by
    obtain rfl | rfl := hstart
    · exact ⟨[[]], cut_slash_cons q, by simp⟩
    · refine ⟨[[], []], ?_, by simp⟩
      show cut (· == slash) (slash :: slash :: q) = _
      rw [cut_slash_cons, cut_slash_cons]
      rfl
  cases ws with
  | nil =>
    obtain ⟨front, hcut, hfront⟩ := hlead []
    rw [List.append_nil] at hcut
    refine ⟨front, [[]], ?_, by simpa [or_imp, forall_and] using hfront⟩
    rw [spelled_nil, hcut, List.append_nil]
    rfl
  | cons w ws =>
    obtain ⟨front, hcut, hfront⟩ := hlead
      (w ++ ws.flatMap (slash :: ·) ++ if closes then [slash] else [])
    have hnames := cut_names (hws w List.mem_cons_self).slash_not_mem
      fun v hv => (hws v (List.mem_cons_of_mem w hv)).slash_not_mem
    rw [spelled_cons, hcut]
    cases closes with
    | false =>
      refine ⟨front, [], ?_, by simpa using hfront⟩
      rw [if_neg Bool.false_ne_true, List.append_nil, List.append_nil, hnames]
    | true =>
      refine ⟨front, [[]], ?_, by simpa [or_imp, forall_and] using hfront⟩
      rw [if_pos rfl, cut_concat_slash, hnames, List.append_assoc]

/-- Its components are the names that it was made of. -/
theorem names_spelled : names (spelled start ws closes) = ws := by
  obtain ⟨front, back, hcut, hempty⟩ := cut_spelled hstart hws closes
  have hnone {vs : List Bytes} (hvs : ∀ v ∈ vs, v = []) :
      vs.filter (fun w => !(w == [] || w == [dot])) = [] :=
    List.filter_eq_nil_iff.mpr fun v hv => by simp [hvs v hv]
  -- Nothing is left out of the names, and nothing is left of what is empty.
  have hall : ws.filter (fun w => !(w == [] || w == [dot])) = ws := by
    refine List.filter_eq_self.mpr fun w hw => ?_
    simpa [here] using And.intro (hws w hw).ne_nil (hws w hw).ne_here
  rw [names, hcut, List.filter_append, List.filter_append, hall,
    hnone fun v hv => hempty v (List.mem_append_left back hv),
    hnone fun v hv => hempty v (List.mem_append_right front hv), List.nil_append, List.append_nil]

/-- None of its components stays where it is. -/
theorem here_not_mem_cut_spelled : here ∉ cut (· == slash) (spelled start ws closes) := by
  obtain ⟨front, back, hcut, hempty⟩ := cut_spelled hstart hws closes
  rw [hcut, List.append_assoc, List.mem_append, List.mem_append]
  rintro (h | h | h)
  · exact List.cons_ne_nil dot [] (hempty here (List.mem_append_left back h))
  · exact (hws here h).ne_here rfl
  · exact List.cons_ne_nil dot [] (hempty here (List.mem_append_right front h))

/-- No slash is repeated but the two that lead, if they do. -/
theorem eq_nil_of_repeated (before : Bytes) {after : Bytes}
    (h : spelled start ws closes = before ++ slash :: slash :: after) :
    before = [] ∧ start = [slash, slash] := by
  -- But for the slash that leads a second one, each stands in front of a name or at the end.
  obtain ⟨tail, htail, hspelled⟩ : ∃ tail, (tail = [] ∨ tail = [slash]) ∧
      spelled start ws closes = start.dropLast ++ (ws.flatMap (slash :: ·) ++ tail) := by
    cases ws with
    | nil =>
      refine ⟨[slash], .inr rfl, ?_⟩
      obtain rfl | rfl := hstart <;> simp [spelled_nil]
    | cons w ws =>
      refine ⟨if closes then [slash] else [], by cases closes <;> simp, ?_⟩
      obtain rfl | rfl := hstart <;> simp [spelled_cons]
  have hrepeated := not_repeated hws htail
  rw [hspelled] at h
  obtain rfl | rfl := hstart
  · exact absurd ⟨before, after, by simpa using h.symm⟩ hrepeated
  · refine ⟨?_, rfl⟩
    cases before with
    | nil => rfl
    | cons b before =>
      exact absurd ⟨before, after, by simpa using (List.cons.inj h).2.symm⟩ hrepeated

/-- Exactly two slashes lead if it was made so. -/
theorem twoSlashes_spelled : TwoSlashes (spelled start ws closes) ↔ start = [slash, slash] := by
  constructor
  · rintro ⟨⟨after, hafter⟩, -⟩
    exact (eq_nil_of_repeated hstart hws closes [] hafter.symm).2
  · rintro rfl
    refine ⟨⟨_, (List.append_assoc ..).symm⟩, ?_⟩
    rintro ⟨after, hafter⟩
    -- A third slash would repeat the second, which is not the first.
    have hbefore := eq_nil_of_repeated hstart hws closes [slash] hafter.symm
    exact List.cons_ne_nil slash [] hbefore.1

/-- The root of what is spelled from an opening is the opening. -/
theorem root_spelled : root (spelled start ws closes) = start := by
  have htwo := twoSlashes_spelled hstart hws closes
  obtain rfl | rfl := hstart
  · exact root_of_not_twoSlashes (mt htwo.mp (by decide))
  · exact root_of_twoSlashes (htwo.mpr rfl)

/-- It consists of slashes only if it has no names. -/
theorem forall_eq_slash_spelled : (∀ b ∈ spelled start ws closes, b = slash) ↔ ws = [] := by
  cases ws with
  | nil =>
    rw [spelled_nil]
    obtain rfl | rfl := hstart
    · simp
    · simp
  | cons w ws =>
    have hw := hws w List.mem_cons_self
    obtain ⟨b, w', rfl⟩ := List.exists_cons_of_ne_nil hw.ne_nil
    refine ⟨fun h => ?_, fun h => by cases h⟩
    have hb : b = slash := h b (by simp [spelled_cons])
    exact absurd (hb ▸ List.mem_cons_self) hw.slash_not_mem

/-- A slash at the end of it is a matter of its form. -/
theorem withSlash_spelled : withSlash (spelled start ws false) = spelled start ws true := by
  have hend := endsInSlash_spelled hstart hws false
  rw [Bool.or_false] at hend
  rw [withSlash, hend]
  cases ws with
  | nil => simp [spelled_nil]
  | cons w ws => simp [spelled_cons]

end Form

/-! ### Resolution -/

/-- Every root is an opening. -/
theorem opening_root (p : Bytes) : Opening (root p) := by
  by_cases h : TwoSlashes p
  · exact .inr (root_of_twoSlashes h)
  · exact .inl (root_of_not_twoSlashes h)

/-- A path is resolved by putting its names behind those that are there. -/
theorem absolute_of_base {start : Bytes} (ws : List Bytes) (hstart : Opening start)
    (hws : ∀ w ∈ ws, IsName w) (hp : p ≠ [])
    (hbase : (if isAbsolute p then root p else cwd) = spelled start ws false) :
    absolute cwd p = spelled start (ws ++ names p) (endsInSlash p) := by
  have hall : ∀ w ∈ ws ++ names p, IsName w := by
    intro w hw
    rcases List.mem_append.mp hw with hw | hw
    · exact hws w hw
    · exact isName_of_mem_names hw
  -- The base is itself names behind an opening, so all of them can be put there at once.
  have hfold : (names p).foldl push (spelled start ws false)
      = spelled start (ws ++ names p) false := by
    rw [← foldl_push_start hstart hws, ← List.foldl_append, foldl_push_start hstart hall]
  rw [absolute, if_neg hp]
  dsimp only
  rw [hbase, hfold, withSlash_spelled hstart hall]
  cases endsInSlash p <;> rfl

/-- The slashes that lead a stored path. -/
def lead (p : Bytes) : Bytes := if isAbsolute p then root p else [slash]

/-- The components of a stored path. -/
def resolvedNames (cwd p : Bytes) : List Bytes :=
  (if isAbsolute p then [] else names cwd) ++ names p

/-- What leads a stored path is an opening. -/
theorem opening_lead (p : Bytes) : Opening (lead p) := by
  rw [lead]
  split
  · exact opening_root p
  · exact .inl rfl

/-- The names of a resolved path are names. -/
theorem isName_of_mem_resolvedNames {w : Bytes} (h : w ∈ resolvedNames cwd p) : IsName w := by
  rcases List.mem_append.mp h with h | h
  · split at h
    · cases h
    · exact isName_of_mem_names h
  · exact isName_of_mem_names h

/-- Two slashes lead a stored path exactly if they led it before. -/
theorem lead_eq_iff : lead p = [slash, slash] ↔ TwoSlashes p := by
  rw [lead]
  by_cases htwo : TwoSlashes p
  · cases habsolute : isAbsolute p with
    | true => simp [root_of_twoSlashes htwo, htwo]
    | false => exact absurd htwo (not_twoSlashes habsolute)
  · rw [root_of_not_twoSlashes htwo, ite_self]
    exact iff_of_false (by decide) htwo

/-- A path that starts at the root is spelled anew, from wherever it is seen. -/
theorem absolute_of_isAbsolute (cwd : Bytes) (h : isAbsolute p = true) :
    absolute cwd p = spelled (root p) (names p) (endsInSlash p) := by
  refine absolute_of_base [] (opening_root p) nofun (ne_nil_of_isAbsolute h) ?_
  rw [if_pos h, spelled_nil]

/-- **What is stored for a path**: its own names, behind those of the working directory if it does
    not start at the root. -/
theorem absolute_eq_spelled (hcwd : IsNormal cwd) (hp : p ≠ []) :
    absolute cwd p = spelled (lead p) (resolvedNames cwd p) (endsInSlash p) := by
  rw [lead, resolvedNames]
  -- The base is the root of the path, or the working directory, whose form is known.
  cases habsolute : isAbsolute p with
  | true => exact absolute_of_isAbsolute cwd habsolute
  | false =>
    refine absolute_of_base (names cwd) (.inl rfl) (fun w => isName_of_mem_names) hp ?_
    rw [habsolute]
    exact isNormal_iff.mp hcwd

/-- **A stored path is left as it is**, from whatever directory it is seen. -/
theorem absolute_spelled {start : Bytes} {ws : List Bytes} (hstart : Opening start)
    (hws : ∀ w ∈ ws, IsName w) (closes : Bool) (directory : Bytes) :
    absolute directory (spelled start ws closes) = spelled start ws closes := by
  rw [absolute_of_isAbsolute directory (isAbsolute_spelled hstart closes),
    root_spelled hstart hws, names_spelled hstart hws, endsInSlash_spelled hstart hws]
  cases ws with
  | nil => rw [spelled_nil, spelled_nil]
  | cons w ws => rfl

/-- The form of what is stored for a path that is seen from a directory: it starts at the root, has
    no component `.` and no slash repeated but the first, and has the components of the path, behind
    those of the directory if need be. -/
structure Normalizes (cwd p stored : Bytes) : Prop where
  isAbsolute : isAbsolute stored = true
  here_not_mem : here ∉ cut (· == slash) stored
  of_repeated : ∀ before after, stored = before ++ slash :: slash :: after →
    before = [] ∧ TwoSlashes p
  twoSlashes_iff : TwoSlashes stored ↔ TwoSlashes p
  names_eq : names stored = (if Path.isAbsolute p then [] else names cwd) ++ names p
  endsInSlash_iff :
    endsInSlash stored = true ↔ endsInSlash p = true ∨ ∀ b ∈ stored, b = slash

/-- A path is stored in this form, unless it is empty. -/
theorem normalizes_absolute (hcwd : IsNormal cwd) (hp : p ≠ []) :
    Normalizes cwd p (absolute cwd p) := by
  have hlead := opening_lead p
  have hws : ∀ w ∈ resolvedNames cwd p, IsName w := fun w => isName_of_mem_resolvedNames
  rw [absolute_eq_spelled hcwd hp]
  refine ⟨isAbsolute_spelled hlead _, here_not_mem_cut_spelled hlead hws _, ?_, ?_,
    names_spelled hlead hws _, ?_⟩
  · intro before after h
    obtain ⟨hbefore, htwo⟩ := eq_nil_of_repeated hlead hws _ before h
    exact ⟨hbefore, lead_eq_iff.mp htwo⟩
  · rw [twoSlashes_spelled hlead hws, lead_eq_iff]
  · rw [endsInSlash_spelled hlead hws, forall_eq_slash_spelled hlead hws, Bool.or_eq_true,
      List.isEmpty_iff, or_comm]

/-- To resolve a stored path again changes nothing. -/
theorem absolute_absolute (hcwd : IsNormal cwd) (directory p : Bytes) :
    absolute directory (absolute cwd p) = absolute cwd p := by
  by_cases hp : p = []
  · rw [hp]
    rfl
  · rw [absolute_eq_spelled hcwd hp]
    exact absolute_spelled (opening_lead p) (fun w => isName_of_mem_resolvedNames) _ directory

end Path

namespace Resources

open ZoneAccess.Path

/-- **Resources are resolved once and for all.** From a working directory in normal form, an empty
    path is stored as it is, and every other one as a path that starts at the root, in normal form:
    * it has no component `.`, and no slash is repeated but the first, which happens exactly if
      exactly two slashes led the path;
    * its components are those of the path without `.`, each name and each `..` in its place, behind
      those of the working directory if the path did not start at the root;
    * it ends in a slash exactly if the path did or if there is nothing else in it.

    Stored paths that are resolved again, from whatever directory, are the same. -/
theorem resolve_normal {cwd : Bytes} (hcwd : IsNormal cwd) (ruleBase grammar : Bytes) :
    let r := resolve cwd ruleBase grammar
    (∀ pair ∈ [(ruleBase, r.ruleBase), (grammar, r.grammar)],
      (pair.1 = [] → pair.2 = []) ∧
      (isAbsolute pair.2 = true ↔ pair.1 ≠ []) ∧
      (pair.1 ≠ [] → Normalizes cwd pair.1 pair.2)) ∧
    ∀ directory, resolve directory r.ruleBase r.grammar = r := by
  intro r
  refine ⟨?_, fun directory => ?_⟩
  · have hstored (p : Bytes) : (p = [] → absolute cwd p = []) ∧
        (isAbsolute (absolute cwd p) = true ↔ p ≠ []) ∧
        (p ≠ [] → Normalizes cwd p (absolute cwd p)) := by
      have hempty : p = [] → absolute cwd p = [] := fun hp => by rw [hp]; rfl
      refine ⟨hempty, ⟨fun h hp => ?_, fun hp => (normalizes_absolute hcwd hp).isAbsolute⟩,
        normalizes_absolute hcwd⟩
      exact ne_nil_of_isAbsolute h (hempty hp)
    exact List.forall_mem_cons.mpr
      ⟨hstored ruleBase, List.forall_mem_singleton.mpr (hstored grammar)⟩
  · show Resources.mk (absolute directory (absolute cwd ruleBase))
      (absolute directory (absolute cwd grammar)) = r
    rw [absolute_absolute hcwd, absolute_absolute hcwd]
    rfl

/-- A path with two leading slashes, dots and a slash too many, and one that goes up from the
    working directory `/w`, stored with one slash between any two components. -/
theorem resolve_normal_dots :
    let r := resolve [47, 119] [47, 47, 97, 47, 46, 47, 47, 98, 47]
      [46, 47, 46, 46, 47, 107, 47, 46]
    IsNormal [47, 119] ∧
    r = ⟨[47, 47, 97, 47, 98, 47], [47, 119, 47, 46, 46, 47, 107]⟩ ∧
    Normalizes [47, 119] [46, 47, 46, 46, 47, 107, 47, 46] r.grammar ∧
    resolve [47] r.ruleBase r.grammar = r := by
  intro r
  have hcwd : IsNormal [47, 119] := by decide
  obtain ⟨hstored, hagain⟩ := resolve_normal hcwd [47, 47, 97, 47, 46, 47, 47, 98, 47]
    [46, 47, 46, 46, 47, 107, 47, 46]
  have hspelled : r = ⟨[47, 47, 97, 47, 98, 47], [47, 119, 47, 46, 46, 47, 107]⟩ := by decide
  have hgrammar := (hstored (_, r.grammar) (List.mem_cons_of_mem _ List.mem_cons_self)).2.2
  exact ⟨hcwd, hspelled, hgrammar (by decide), hagain [47]⟩

end Resources

end ZoneAccess
