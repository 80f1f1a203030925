import ZoneAccess.Settings.Value

namespace ZoneAccess

/-!
# Well-typed settings

What the values of a layer make of the settings, one by one.

* `Field.read?` — what a value makes of a setting, if it is of the type that the setting takes;
* `Settings.ofLayer?_eq_some_iff` — a layer makes settings if it makes of each what they have;
* `Settings.ofLayer?_eq_none_iff` — it makes none if one of its values is ill typed.
-/

/-! ### One setting -/

/-- The time limit that a value says, if it can be one; where there is no value, there is no
    limit. -/
def Field.limitIn? : Option Value → Option (Option UInt64)
  | none => some none
  | some v => v.limit?

/-- What a value, or none at all, makes of a setting: the value that says just that, or nothing if
    it is not of the type that the setting takes. Only the time limit may be left out. -/
def Field.read? (f : Field) (v : Option Value) : Option (Option Value) :=
  match f with
  | .queryTimeoutSecs =>
    (limitIn? v).map fun limit => limit.map fun secs => .integer secs.toNat
  | .logFormat => (v.bind Value.logFormat?).map fun form => some (.text form.name)
  | _ => (v.bind Value.text?).map fun s => some (.text s)

/-- Whether a setting is a text. -/
def Field.isText : Field → Bool
  | .queryTimeoutSecs => false
  | .logFormat => false
  | _ => true

namespace Field

/-- What holds of every setting, setting by setting. -/
theorem forall_iff {P : Field → Prop} :
    (∀ f, P f) ↔ P .engineExecutable ∧ P .ruleBasePath ∧ P .grammarPath ∧ P .entryPredicate ∧
      P .queryTimeoutSecs ∧ P .logFilter ∧ P .logFormat := by
  constructor
  · intro h
    exact ⟨h _, h _, h _, h _, h _, h _, h _⟩
  · rintro ⟨h1, h2, h3, h4, h5, h6, h7⟩ f
    cases f <;> assumption

/-- A field of text reads its value as text. -/
theorem read?_of_isText {f : Field} (h : f.isText = true) (v : Option Value) :
    f.read? v = (v.bind Value.text?).map fun s => some (.text s) := by
  cases f <;> first | rfl | simp [isText] at h

/-- A text is read as itself. -/
theorem read?_text_iff {f : Field} (h : f.isText = true) {v : Option Value} {s : String} :
    f.read? v = some (some (.text s)) ↔ v.bind Value.text? = some s := by
  rw [read?_of_isText h, Option.map_eq_some_iff]
  constructor
  · rintro ⟨t, ht, heq⟩
    obtain rfl : t = s := by simpa using heq
    exact ht
  · intro hs
    exact ⟨s, hs, rfl⟩

/-- A form of log records is known by its name. -/
theorem read?_logFormat_iff {v : Option Value} {form : LogFormat} :
    logFormat.read? v = some (some (.text form.name)) ↔ v.bind Value.logFormat? = some form := by
  show ((v.bind Value.logFormat?).map fun form => some (Value.text form.name)) = _ ↔ _
  rw [Option.map_eq_some_iff]
  constructor
  · rintro ⟨other, hother, heq⟩
    have hname : other.name = form.name := by simpa using heq
    obtain rfl : other = form := by
      cases other <;> cases form <;> first | rfl | simp [LogFormat.name] at hname
    exact hother
  · intro h
    exact ⟨form, h, rfl⟩

/-- A time limit is known by its seconds. -/
theorem read?_limit_iff {v : Option Value} {limit : Option UInt64} :
    queryTimeoutSecs.read? v = some (limit.map fun secs => .integer secs.toNat)
      ↔ limitIn? v = some limit := by
  show (limitIn? v).map _ = _ ↔ _
  rw [Option.map_eq_some_iff]
  constructor
  · rintro ⟨other, hother, heq⟩
    have hsame : other = limit := by
      cases other with
      | none =>
        cases limit with
        | none => rfl
        | some m => cases heq
      | some n =>
        cases limit with
        | none => cases heq
        | some m =>
          have hnumber : (n.toNat : Int) = m.toNat := Value.integer.inj (Option.some.inj heq)
          rw [UInt64.toNat_inj.mp (Int.ofNat.inj hnumber)]
    rwa [← hsame]
  · intro h
    exact ⟨limit, h, rfl⟩

/-- If an optional value is mapped to something, it is something. -/
theorem exists_of_map_ne_none {α β : Type} {g : α → β} {x : Option α} (h : x.map g ≠ none) :
    ∃ a, x.map g = some (g a) := by
  cases x with
  | none => exact absurd rfl h
  | some a => exact ⟨a, rfl⟩

section Typed

variable {v : Option Value}

/-- What is taken for a text setting is a text. -/
theorem exists_text_of_read? {f : Field} (h : f.isText = true) (hv : f.read? v ≠ none) :
    ∃ s, f.read? v = some (some (.text s)) := by
  rw [read?_of_isText h] at hv ⊢
  exact exists_of_map_ne_none hv

/-- What is taken for a form of log records is the name of one. -/
theorem exists_logFormat_of_read? (hv : logFormat.read? v ≠ none) :
    ∃ form : LogFormat, logFormat.read? v = some (some (.text form.name)) :=
  exists_of_map_ne_none hv

/-- What is taken for a time limit is one, or says that there is none. -/
theorem exists_limit_of_read? (hv : queryTimeoutSecs.read? v ≠ none) :
    ∃ limit : Option UInt64,
      queryTimeoutSecs.read? v = some (limit.map fun secs => .integer secs.toNat) :=
  exists_of_map_ne_none hv

end Typed

end Field

namespace Settings

/-! ### One layer -/

/-- A layer makes settings if it makes of each setting what they have there. -/
theorem ofLayer?_eq_some_iff {l : Layer} {r : Settings} :
    ofLayer? l = some r ↔ ∀ f : Field, f.read? (l f) = some (r.toLayer f) := by
  obtain ⟨engine, rules, grammar, predicate, limit, filter, form⟩ := r
  rw [Field.forall_iff]
  simp only [toLayer]
  rw [Field.read?_text_iff (f := .engineExecutable) rfl,
    Field.read?_text_iff (f := .ruleBasePath) rfl, Field.read?_text_iff (f := .grammarPath) rfl,
    Field.read?_text_iff (f := .entryPredicate) rfl, Field.read?_limit_iff,
    Field.read?_text_iff (f := .logFilter) rfl, Field.read?_logFormat_iff]
  unfold ofLayer?
  -- What is left is about seven values, each there or not.
  generalize (l .engineExecutable).bind Value.text? = a
  generalize (l .ruleBasePath).bind Value.text? = b
  generalize (l .grammarPath).bind Value.text? = c
  generalize (l .entryPredicate).bind Value.text? = d
  generalize (l .logFilter).bind Value.text? = e
  generalize (l .logFormat).bind Value.logFormat? = g
  cases l .queryTimeoutSecs
  all_goals
    unfold Field.limitIn?
    simp only [bind, Option.bind_eq_some_iff, pure, Option.some.injEq, Settings.mk.injEq]
    constructor
    · rintro ⟨_, ha, _, hb, _, hc, _, hd, _, hlimit, _, he, _, hg, rfl, rfl, rfl, rfl, rfl, rfl, rfl⟩
      exact ⟨ha, hb, hc, hd, hlimit, he, hg⟩
    · rintro ⟨ha, hb, hc, hd, hlimit, he, hg⟩
      exact ⟨_, ha, _, hb, _, hc, _, hd, _, hlimit, _, he, _, hg, rfl, rfl, rfl, rfl, rfl, rfl, rfl⟩

/-- It makes none if it gives a setting a value of another type. -/
theorem ofLayer?_eq_none_iff {l : Layer} :
    ofLayer? l = none ↔ ∃ f : Field, f.read? (l f) = none := by
  constructor
  · intro hnone
    apply Classical.byContradiction
    intro h
    -- If every value is of its type, there are settings with these values.
    have hread (f : Field) : f.read? (l f) ≠ none := fun hf => h ⟨f, hf⟩
    obtain ⟨engine, hengine⟩ := Field.exists_text_of_read? (f := .engineExecutable) rfl (hread _)
    obtain ⟨rules, hrules⟩ := Field.exists_text_of_read? (f := .ruleBasePath) rfl (hread _)
    obtain ⟨grammar, hgrammar⟩ := Field.exists_text_of_read? (f := .grammarPath) rfl (hread _)
    obtain ⟨predicate, hpredicate⟩ :=
      Field.exists_text_of_read? (f := .entryPredicate) rfl (hread _)
    obtain ⟨limit, hlimit⟩ := Field.exists_limit_of_read? (hread _)
    obtain ⟨filter, hfilter⟩ := Field.exists_text_of_read? (f := .logFilter) rfl (hread _)
    obtain ⟨form, hform⟩ := Field.exists_logFormat_of_read? (hread _)
    have hsome : ofLayer? l = some ⟨engine, rules, grammar, predicate, limit, filter, form⟩ := by
      rw [ofLayer?_eq_some_iff, Field.forall_iff]
      exact ⟨hengine, hrules, hgrammar, hpredicate, hlimit, hfilter, hform⟩
    rw [hnone] at hsome
    cases hsome
  · rintro ⟨f, hf⟩
    cases hr : ofLayer? l with
    | none => rfl
    | some r =>
      have hread := ofLayer?_eq_some_iff.mp hr f
      rw [hf] at hread
      cases hread

end Settings

end ZoneAccess
