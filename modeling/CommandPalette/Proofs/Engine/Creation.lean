import CommandPalette.Engine.Creation
import CommandPalette.Proofs.Command.Acceptance
import CommandPalette.Proofs.Command.Descent

/-!
# What a created engine holds

An engine is created for a forest only if the forest is valid.  Its registry is then that of one
registration, and its session has not begun.

* `Engine.Created`: an order for a forest was fulfilled with an engine.
* `Engine.Created.spec`: what the engine holds.  `Engine.created_of_valid`: a valid forest gets one.
-/

namespace CommandPalette

open Command

variable {α β : Type}

namespace Engine

/-- An engine was created for a forest. -/
def Created (e : Engine α β) (forest : List (Declaration α β)) : Prop :=
  ∃ (order : Order α β) (place : Log.Output.Place) (output : Log.Output) (files : FileSystem),
    order.commands = some forest ∧ (order.fulfil place output files).result = .ok e

/-- An order is fulfilled with an engine that was made under settings of some kind. -/
lemma make_of_fulfil {order : Order α β} {place : Log.Output.Place} {output : Log.Output}
    {files : FileSystem} {forest : List (Declaration α β)} (hcommands : order.commands = some forest)
    {e : Engine α β} (h : (order.fulfil place output files).result = .ok e) :
    ∃ config, (make config order.onError forest).1 = .ok e := by
  rw [Order.fulfil, hcommands] at h
  dsimp only at h
  split at h
  · cases h
  · rename_i heq
    cases heq
  · rename_i commands _ heq
    obtain rfl := Option.some.inj heq
    split at h
    · cases h
    · rename_i config _
      split at h
      · cases h
      · exact ⟨config, h⟩

lemma make_of_valid (config : Settings.Config) (onError : Option (Fault → Option Fault))
    {forest : List (Declaration α β)} (h : ∀ d ∈ forest, d.Valid) :
    (make config onError forest).1 =
      .ok { config, registry := Registry.declared config.input.defaultCommand forest, onError } := by
  have hregister := (register_of_valid ({ defaultName := config.input.defaultCommand }) h).1
  rw [make, Registry.declared]
  rcases hresult : ({ defaultName := config.input.defaultCommand } : Registry α β).register forest with
    ⟨registry, fault, lines⟩
  rw [hresult] at hregister
  obtain rfl : fault = none := hregister
  rfl

lemma valid_of_make {config : Settings.Config} {onError : Option (Fault → Option Fault)}
    {forest : List (Declaration α β)} {e : Engine α β} (h : (make config onError forest).1 = .ok e) :
    ∀ d ∈ forest, d.Valid := by
  refine valid_of_register (r := { defaultName := config.input.defaultCommand }) ?_
  rw [make] at h
  rcases hresult : ({ defaultName := config.input.defaultCommand } : Registry α β).register forest with
    ⟨registry, fault, lines⟩
  rw [hresult] at h
  cases fault with
  | none => rfl
  | some fault => cases h

/-- **A created engine holds one registration of a valid forest**, and its session has not begun. -/
lemma Created.spec {e : Engine α β} {forest : List (Declaration α β)} (h : e.Created forest) :
    (∀ d ∈ forest, d.Valid) ∧
      e.registry = Registry.declared e.config.input.defaultCommand forest ∧ e.session = {} := by
  obtain ⟨order, place, output, files, hcommands, hresult⟩ := h
  obtain ⟨config, hmake⟩ := make_of_fulfil hcommands hresult
  have hvalid := valid_of_make hmake
  rw [make_of_valid config order.onError hvalid] at hmake
  obtain rfl := Except.ok.inj hmake
  exact ⟨hvalid, rfl, rfl⟩

/-- A valid forest gets an engine, under any settings that ask for no log. -/
lemma created_of_valid {config : Settings.Config} (hlog : config.app.wantsLog = false)
    {forest : List (Declaration α β)} (h : ∀ d ∈ forest, d.Valid) :
    Created { config, registry := Registry.declared config.input.defaultCommand forest } forest := by
  refine ⟨{ commands := some forest, config }, {}, {}, default, rfl, ?_⟩
  have hoverride : config.override [] = .ok config := rfl
  have hmake := make_of_valid config none h
  simp only [Order.fulfil, List.map_nil, List.find?_nil, hoverride, hlog, Bool.false_eq_true, if_false]
  exact hmake

end Engine

end CommandPalette
