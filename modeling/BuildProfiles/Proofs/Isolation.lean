/-
A resolution leaves the profiles of its caller alone.

The interpolator changes in place what it is handed, and the profiles are read again
once it is done. That no change shows is a matter of the copies: they lie beyond what
was there (`made_projected`) and the interpolator writes to them alone, so what was
there stays (`extends_work`). The copies share nothing among themselves either, so the
interpolator does to them what it does to a model (`seen_work`), whatever the profiles
of the caller share. Hence `resolveOn_eq`, and `resolve_eq`, which says what a resolution
comes to where nothing is shared.
-/
import BuildProfiles.Resolution

namespace BuildProfiles

theorem Store.Confined.extends {store copied after : Store} {copies : List Profile.Object}
    (h : copied.Confined copies after) (kept : store.Extends copied)
    (beyond : ∀ object ∈ copies, store.Beyond copied object) : store.Extends after := by
  constructor
  · refine List.prefix_iff_getElem?.2 fun place hplace => ?_
    have hother : ∀ object ∈ copies, object.activation ≠ some place := fun object hobject hfound =>
      absurd hplace (Nat.not_lt.2 ((beyond object hobject).activation place hfound))
    rw [h.activations place (Nat.lt_of_lt_of_le hplace kept.activations.length_le) hother,
      kept.getElem?_activations hplace, List.getElem?_eq_getElem hplace]
  · refine List.prefix_iff_getElem?.2 fun place hplace => ?_
    have hother : ∀ object ∈ copies, copied.condition? object ≠ some place := fun object hobject hfound =>
      absurd hplace (Nat.not_lt.2 ((beyond object hobject).condition place hfound))
    rw [h.conditions place (Nat.lt_of_lt_of_le hplace kept.conditions.length_le) hother,
      kept.getElem?_conditions hplace, List.getElem?_eq_getElem hplace]

namespace Resolution

theorem made_projected (objects : Objects) :
    objects.store.Made (projected objects).1 (projected objects).2
      (objects.view.map fun profile => { profile with location := none }) :=
  Store.made_addAll ..

theorem request_projected (objects : Objects) (context : Context) :
    request ((projected objects).2.map (projected objects).1.profile) context =
      request objects.view context := by
  simp only [request, (made_projected objects).profiles, List.map_map]
  rfl

/-- Whatever the interpolator does, what the caller has stays. -/
theorem extends_work (interpolator : Interpolator) (objects : Objects) (asked : Request) :
    objects.store.Extends
      (interpolator.work (projected objects).1 (projected objects).2 asked).store :=
  (interpolator.confined ..).extends (made_projected objects).kept (made_projected objects).beyond

/-- Handed the copies, the interpolator does what it does to a model. -/
theorem seen_work (interpolator : Interpolator) (objects : Objects) (context : Context) :
    (interpolator.work (projected objects).1 (projected objects).2 (request objects.view context)).seen =
      interpolator.interpolate (request objects.view context) :=
  interpolator.seen (made_projected objects).sound (made_projected objects).separate
    (made_projected objects).profiles.symm

variable {selector : Selector} {context : Context}

theorem resolveOn_of_distinct {objects : Objects} (distinct : (objects.profiles.map (·.id)).Nodup) :
    selector.resolveOn objects context =
      (do
        let asked := request objects.view context
        let model ← prepare asked (selector.interpolator.interpolate asked)
        settle selector.activators model context objects.view, objects) := by
  simp only [Selector.resolveOn, if_pos distinct, request_projected, seen_work, (extends_work ..).upTo_eq]

theorem resolveOn_of_repeated {objects : Objects} (repeated : ¬ (objects.profiles.map (·.id)).Nodup) :
    selector.resolveOn objects context = (⟨[.logged ambiguity], .ok []⟩, objects) := by
  rw [Selector.resolveOn, if_neg repeated]

/-- What a resolution comes to, with the interpolator as it is seen. -/
theorem resolve_eq {profiles : List Profile} :
    selector.resolve profiles context =
      if (profiles.map (·.id)).Nodup then do
        let asked := request profiles context
        let model ← prepare asked (selector.interpolator.interpolate asked)
        settle selector.activators model context profiles
      else ⟨[.logged ambiguity], .ok []⟩ := by
  have hids := (Objects.ofProfiles profiles).ids_view
  rw [Objects.view_ofProfiles] at hids
  rw [Selector.resolve, hids]
  split
  · rename_i distinct
    rw [resolveOn_of_distinct distinct, Objects.view_ofProfiles]
  · rename_i repeated
    rw [resolveOn_of_repeated repeated]

/-- **Objects are resolved as fresh ones in their place would be, and are left as they
were**, however much they share and whatever the interpolator does. -/
theorem resolveOn_eq (selector : Selector) (objects : Objects) (context : Context) :
    selector.resolveOn objects context = (selector.resolve objects.view context, objects) := by
  rw [resolve_eq, objects.ids_view]
  split
  · rename_i distinct
    rw [resolveOn_of_distinct distinct]
  · rename_i repeated
    rw [resolveOn_of_repeated repeated]

/-- A copy that shared its condition with the profile would not do. -/
example :
    let docs : Profile := { id := "docs", activation := some { property := some { name := some "${name}" } } }
    let objects := Objects.ofProfiles [docs]
    let cells := objects.store.activations
    let store := { objects.store with activations := cells ++ cells }
    let copies := objects.profiles.map fun object => { object with activation := some cells.length }
    let asked := request [docs] { userProperties := .ofList [("name", "env")] }
    let effect := Interpolator.property.work store copies asked
    { objects with store := effect.store.upTo objects.store }.view =
      [{ docs with activation := some { property := some { name := some "env" } } }] := by
  decide +kernel

end Resolution

end BuildProfiles
