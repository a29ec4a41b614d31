/-
This file joins a simulated machine with a simulated network.
-/

import Scaledown.CommandLine.Run
import Scaledown.Simulation.Machine
import Scaledown.Simulation.Network

namespace Scaledown.Simulation

structure Site where
  machine : Machine
  network : ScriptedNetwork
  deriving DecidableEq, Repr

namespace Site

def onMachine {α : Type} (reply : Reply Machine α) : Reply Site α :=
  Reply.onPart Site.machine (fun site machine => { site with machine := machine }) reply

def onNetwork {α : Type} (reply : Reply ScriptedNetwork α) : Reply Site α :=
  Reply.onPart Site.network (fun site network => { site with network := network }) reply

/-- No run at a site needs more rounds, polls or pages than there are scripted answers. -/
def patience (site : Site) : Nat :=
  site.network.answers.length + 2

def surroundings : CommandLine.Surroundings Site where
  files :=
    { read := fun path => onMachine (Simulation.files.read path)
      makeDirectory := fun path => onMachine (Simulation.files.makeDirectory path)
      openLog := fun path => onMachine (Simulation.files.openLog path) }
  programs := { run := fun name arguments => onMachine (Simulation.programs.run name arguments) }
  network := { exchange := fun request => onNetwork (Simulation.network.exchange request) }

end Site

end Scaledown.Simulation
