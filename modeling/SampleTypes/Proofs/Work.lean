/-
Work that may fail and changes a state: its outcome, told step by step. What a failed step changed
stays changed, and the handler of a failure goes on from there.

`Gives P work a` says that work which keeps `P` gives `a` unless it fails. It goes through all that
work is made of, so that the value of a program is told without its states. `Keeps P E work` says
what holds of work that fails, too: it keeps `P`, and its errors are among `E`. `Ends P work r` says
both for work that ends in one way only: with a value, or with the error that bars it.
-/
namespace SampleTypes.Work

variable {ε σ α β : Type}

/-- What work gives from a state, and the state that it leaves. -/
def outcome (work : ExceptT ε (StateM σ) α) (s : σ) : Except ε α × σ :=
  work.run s

@[simp] theorem outcome_pure (a : α) (s : σ) :
    outcome (pure a : ExceptT ε (StateM σ) α) s = (.ok a, s) := rfl

@[simp] theorem outcome_throw (e : ε) (s : σ) :
    outcome (throw e : ExceptT ε (StateM σ) α) s = (.error e, s) := rfl

@[simp] theorem outcome_get (s : σ) :
    outcome (get : ExceptT ε (StateM σ) σ) s = (.ok s, s) := rfl

@[simp] theorem outcome_set (s t : σ) :
    outcome (set t : ExceptT ε (StateM σ) Unit) s = (.ok (), t) := rfl

@[simp] theorem outcome_modify (f : σ → σ) (s : σ) :
    outcome (modify f : ExceptT ε (StateM σ) Unit) s = (.ok (), f s) := rfl

theorem outcome_bind (x : ExceptT ε (StateM σ) α) (f : α → ExceptT ε (StateM σ) β) (s : σ) :
    outcome (x >>= f) s = match outcome x s with
      | (.ok a, t) => outcome (f a) t
      | (.error e, t) => (.error e, t) := by
  have h : outcome (x >>= f) s = match outcome x s with
      | (r, t) => outcome (ExceptT.mk (ExceptT.bindCont f r)) t := rfl
  rw [h]
  rcases outcome x s with ⟨_ | a, t⟩ <;> rfl

theorem outcome_tryCatch (x : ExceptT ε (StateM σ) α) (f : ε → ExceptT ε (StateM σ) α) (s : σ) :
    outcome (tryCatch x f) s = match outcome x s with
      | (.ok a, t) => (.ok a, t)
      | (.error e, t) => outcome (f e) t := by
  have h : outcome (tryCatch x f) s = match outcome x s with
      | (r, t) => outcome (ExceptT.mk (match r with
        | .ok a => pure (.ok a)
        | .error e => (f e).run)) t := rfl
  rw [h]
  rcases outcome x s with ⟨_ | a, t⟩ <;> rfl

theorem outcome_bind_eq_ok {x : ExceptT ε (StateM σ) α} {f : α → ExceptT ε (StateM σ) β}
    {s s' : σ} {b : β} :
    outcome (x >>= f) s = (.ok b, s') ↔
      ∃ a t, outcome x s = (.ok a, t) ∧ outcome (f a) t = (.ok b, s') := by
  rw [outcome_bind]
  rcases outcome x s with ⟨_ | a, t⟩ <;> simp [and_assoc]

/-! ## The value of work that does not fail -/

/-- Unless it fails, the work gives the value and keeps `P`. -/
def Gives (P : σ → Prop) (work : ExceptT ε (StateM σ) α) (a : α) : Prop :=
  ∀ s b t, P s → outcome work s = (.ok b, t) → b = a ∧ P t

variable {P : σ → Prop} {a : α} {b : β}

theorem gives_pure (a : α) : Gives P (pure a : ExceptT ε (StateM σ) α) a := by
  intro s b t hs h
  rw [outcome_pure] at h
  obtain ⟨rfl, rfl⟩ : a = b ∧ s = t := by simpa using h
  exact ⟨rfl, hs⟩

theorem gives_throw (e : ε) (a : α) : Gives P (throw e : ExceptT ε (StateM σ) α) a := by
  intro s b t _ h
  rw [outcome_throw] at h
  cases h

theorem gives_modify {f : σ → σ} (hf : ∀ s, P s → P (f s)) :
    Gives P (modify f : ExceptT ε (StateM σ) Unit) () := by
  intro s b t hs h
  rw [outcome_modify] at h
  obtain rfl : f s = t := by simpa using h
  exact ⟨rfl, hf s hs⟩

theorem Gives.bind {x : ExceptT ε (StateM σ) α} {f : α → ExceptT ε (StateM σ) β}
    (hx : Gives P x a) (hf : Gives P (f a) b) : Gives P (x >>= f) b := by
  intro s c t hs h
  obtain ⟨a', u, h₁, h₂⟩ := outcome_bind_eq_ok.1 h
  obtain ⟨rfl, hu⟩ := hx s a' u hs h₁
  exact hf u c t hu h₂

theorem gives_throw_bind (e : ε) {f : α → ExceptT ε (StateM σ) β} (b : β) :
    Gives P ((throw e : ExceptT ε (StateM σ) α) >>= f) b := by
  intro s c t _ h
  rw [outcome_bind, outcome_throw] at h
  cases h

/-- Work that looks at the state first. -/
theorem gives_get_bind {f : σ → ExceptT ε (StateM σ) β} (hf : ∀ s, P s → Gives P (f s) b) :
    Gives P (get >>= f) b := by
  intro s c t hs h
  rw [outcome_bind, outcome_get] at h
  exact hf s hs s c t hs h

theorem Gives.foldlM {step : β → α → ExceptT ε (StateM σ) β} {next : β → α → β} {as : List α}
    (hstep : ∀ b, ∀ a ∈ as, Gives P (step b a) (next b a)) (b : β) :
    Gives P (as.foldlM step b) (as.foldl next b) := by
  induction as generalizing b with
  | nil => exact gives_pure b
  | cons a rest ih =>
    rw [List.foldlM_cons, List.foldl_cons]
    have hrest := ih fun b a ha => hstep b a (List.mem_cons_of_mem _ ha)
    exact (hstep b a List.mem_cons_self).bind (hrest (next b a))

theorem Gives.mapM {f : α → ExceptT ε (StateM σ) β} {g : α → β} (hf : ∀ a, Gives P (f a) (g a))
    (as : List α) : Gives P (as.mapM f) (as.map g) := by
  induction as with
  | nil => exact gives_pure []
  | cons a rest ih =>
    rw [List.mapM_cons, List.map_cons]
    exact (hf a).bind (ih.bind (gives_pure _))

theorem Gives.forM {f : α → ExceptT ε (StateM σ) Unit} (hf : ∀ a, Gives P (f a) ())
    (as : List α) : Gives P (as.forM f) () := by
  induction as with
  | nil => exact gives_pure ()
  | cons a rest ih => exact (hf a).bind ih

/-! ## What work keeps -/

/-- The work keeps `P`, whether or not it fails, and fails only with errors for which `E` holds. -/
def Keeps (P : σ → Prop) (E : ε → Prop) (work : ExceptT ε (StateM σ) α) : Prop :=
  ∀ s, P s → P (outcome work s).2 ∧ ∀ e, (outcome work s).1 = .error e → E e

variable {E : ε → Prop}

theorem keeps_pure (a : α) : Keeps P E (pure a : ExceptT ε (StateM σ) α) := by
  intro s hs
  exact ⟨hs, nofun⟩

theorem keeps_throw {e : ε} (he : E e) : Keeps P E (throw e : ExceptT ε (StateM σ) α) := by
  intro s hs
  refine ⟨hs, fun e' h => ?_⟩
  obtain rfl : e = e' := Except.error.inj h
  exact he

theorem keeps_modify {f : σ → σ} (hf : ∀ s, P s → P (f s)) :
    Keeps P E (modify f : ExceptT ε (StateM σ) Unit) := by
  intro s hs
  exact ⟨hf s hs, nofun⟩

theorem keeps_set {t : σ} (ht : P t) : Keeps P E (set t : ExceptT ε (StateM σ) Unit) := by
  intro s _
  exact ⟨ht, nofun⟩

theorem Keeps.bind {x : ExceptT ε (StateM σ) α} {f : α → ExceptT ε (StateM σ) β}
    (hx : Keeps P E x) (hf : ∀ a, Keeps P E (f a)) : Keeps P E (x >>= f) := by
  intro s hs
  obtain ⟨hp, he⟩ := hx s hs
  rw [outcome_bind]
  rcases h : outcome x s with ⟨e | a, t⟩ <;> rw [h] at hp he
  · refine ⟨hp, fun e' h' => ?_⟩
    obtain rfl : e = e' := Except.error.inj h'
    exact he e rfl
  · exact hf a t hp

theorem Keeps.tryCatch {x : ExceptT ε (StateM σ) α} {f : ε → ExceptT ε (StateM σ) α}
    {E' : ε → Prop} (hx : Keeps P E' x) (hf : ∀ e, E' e → Keeps P E (f e)) :
    Keeps P E (tryCatch x f) := by
  intro s hs
  obtain ⟨hp, he⟩ := hx s hs
  rw [outcome_tryCatch]
  rcases h : outcome x s with ⟨e | a, t⟩ <;> rw [h] at hp he
  · exact hf e (he e rfl) t hp
  · exact ⟨hp, nofun⟩

theorem keeps_get_bind {f : σ → ExceptT ε (StateM σ) β} (hf : ∀ s, P s → Keeps P E (f s)) :
    Keeps P E (get >>= f) := by
  intro s hs
  rw [outcome_bind, outcome_get]
  exact hf s hs s hs

theorem Keeps.mapM {f : α → ExceptT ε (StateM σ) β} (hf : ∀ a, Keeps P E (f a)) (as : List α) :
    Keeps P E (as.mapM f) := by
  induction as with
  | nil => exact keeps_pure []
  | cons a rest ih =>
    rw [List.mapM_cons]
    exact (hf a).bind fun _ => ih.bind fun _ => keeps_pure _

theorem Keeps.forM {f : α → ExceptT ε (StateM σ) Unit} (hf : ∀ a, Keeps P E (f a)) (as : List α) :
    Keeps P E (as.forM f) := by
  induction as with
  | nil => exact keeps_pure ()
  | cons a rest ih => exact (hf a).bind fun _ => ih

/-! ## How work ends -/

/-- A value, or the error that bars it. -/
def barring (bar : Option ε) (a : α) : Except ε α :=
  match bar with
  | some e => .error e
  | none => .ok a

/-- From every state with `P`, the work ends in the same way and keeps `P`. -/
def Ends (P : σ → Prop) (work : ExceptT ε (StateM σ) α) (r : Except ε α) : Prop :=
  ∀ s, P s → (outcome work s).1 = r ∧ P (outcome work s).2

variable {bar bar' : Option ε}

theorem barring_eq_ok_iff {c : α} : barring bar a = .ok c ↔ bar = none ∧ c = a := by
  cases bar <;> simp [barring, eq_comm]

theorem ends_pure (a : α) : Ends P (pure a : ExceptT ε (StateM σ) α) (barring none a) := by
  intro s hs
  exact ⟨rfl, hs⟩

theorem ends_throw (e : ε) (a : α) :
    Ends P (throw e : ExceptT ε (StateM σ) α) (barring (some e) a) := by
  intro s hs
  exact ⟨rfl, hs⟩

theorem ends_throw_bind (e : ε) {f : α → ExceptT ε (StateM σ) β} (b : β) :
    Ends P ((throw e : ExceptT ε (StateM σ) α) >>= f) (barring (some e) b) := by
  intro s hs
  rw [outcome_bind, outcome_throw]
  exact ⟨rfl, hs⟩

theorem ends_modify {f : σ → σ} (hf : ∀ s, P s → P (f s)) :
    Ends P (modify f : ExceptT ε (StateM σ) Unit) (barring none ()) := by
  intro s hs
  exact ⟨rfl, hf s hs⟩

theorem ends_get_bind {f : σ → ExceptT ε (StateM σ) β} {r : Except ε β}
    (hf : ∀ s, P s → Ends P (f s) r) : Ends P (get >>= f) r := by
  intro s hs
  rw [outcome_bind, outcome_get]
  exact hf s hs s hs

/-- What comes second matters only if the first is not barred. -/
theorem Ends.bind {x : ExceptT ε (StateM σ) α} {f : α → ExceptT ε (StateM σ) β}
    (hx : Ends P x (barring bar a)) (hf : bar = none → Ends P (f a) (barring bar' b)) :
    Ends P (x >>= f) (barring (bar.or bar') b) := by
  intro s hs
  obtain ⟨hend, hkept⟩ := hx s hs
  rw [outcome_bind]
  rcases hrun : outcome x s with ⟨r, t⟩
  rw [hrun] at hend hkept
  obtain rfl : r = barring bar a := hend
  cases bar with
  | some e => exact ⟨rfl, hkept⟩
  | none => exact hf rfl t hkept

theorem Ends.mapM {f : α → ExceptT ε (StateM σ) β} {g : α → β} {barOf : α → Option ε}
    (hf : ∀ a, Ends P (f a) (barring (barOf a) (g a))) (as : List α) :
    Ends P (as.mapM f) (barring (as.findSome? barOf) (as.map g)) := by
  induction as with
  | nil => exact ends_pure []
  | cons a rest ih =>
    have hor : (a :: rest).findSome? barOf = (barOf a).or ((rest.findSome? barOf).or none) := by
      rw [List.findSome?_cons, Option.or_none]
      cases barOf a <;> rfl
    rw [List.mapM_cons, List.map_cons, hor]
    exact (hf a).bind fun _ => ih.bind fun _ => ends_pure _

theorem Ends.gives {work : ExceptT ε (StateM σ) α} (h : Ends P work (barring bar a)) :
    Gives P work a := by
  intro s b t hs hrun
  obtain ⟨hend, hkept⟩ := h s hs
  rw [hrun] at hend hkept
  exact ⟨(barring_eq_ok_iff.1 hend.symm).2, hkept⟩

end SampleTypes.Work
