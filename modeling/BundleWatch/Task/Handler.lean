import BundleWatch.Config.Settings
import BundleWatch.Process.Tracker
import BundleWatch.Reload.Hub
import BundleWatch.Rule.Table
import BundleWatch.Task.Work

/-!
# Task handlers

A handler runs the tasks that bear its name. It may change files, reach clients, start tools, leave
lines in the journal, and offer further tasks to the queue.
-/

set_option autoImplicit false

namespace BundleWatch

structure World (σ : Type) where
  files : σ
  hub : Hub := {}
  processes : Tracker := {}
  journal : Journal := []

abbrev Handler (σ : Type) := Settings → List Arg → World σ → Work (World σ)

structure HandlerRegistry (σ : Type) where
  handlers : List (String × Handler σ) := []

namespace HandlerRegistry

variable {σ : Type}

def empty : HandlerRegistry σ := {}

def get? (r : HandlerRegistry σ) (name : String) : Option (Handler σ) := r.handlers.lookup name

def contains (r : HandlerRegistry σ) (name : String) : Bool := (r.get? name).isSome

def register (r : HandlerRegistry σ) (name : String) (h : Handler σ) : HandlerRegistry σ :=
  ⟨(name, h) :: r.handlers.filter (·.1 ≠ name)⟩

def names (r : HandlerRegistry σ) : List String :=
  (r.handlers.map (·.1)).mergeSort fun a b => decide (a ≤ b)

def describe (r : HandlerRegistry σ) : String :=
  "HandlerRegistry \x7b handlers: " ++ Text.quoteList r.names ++ " \x7d"

end HandlerRegistry

end BundleWatch
