import DiceRoller.Service
import DiceRoller.Settings

/-!
A service from its start on.

With a seed one generator serves all requests.  It is made for the first request, also if
that one is refused, and is kept from then on.  Without a seed every request gets a new
generator of the system and nothing is kept.
-/

namespace DiceRoller

/-- What a call gets from outside: a stamp for its report and a new generator of the
system. -/
structure Outside (σ : Type) where
  stamp : Stamp
  system : σ

/-- A service with the generator that its requests share, once there is one. -/
structure Session (σ : Type) where
  settings : Settings
  shared : Option σ

namespace Session

section
variable {σ : Type} (g : Generator σ) (ofSeed : Int → σ) (source : String)

def start (settings : Settings) : Session σ := ⟨settings, none⟩

/-- The generator for a request. -/
def generator (v : Session σ) (system : σ) : σ :=
  match v.settings.seed with
  | none => system
  | some seed => v.shared.getD (ofSeed seed)

/-- The service after a request that leaves its generator in the state `s`. -/
def keep (v : Session σ) (s : σ) : Session σ :=
  if v.settings.sharesSource then { v with shared := some s } else v

/-- Answer a call.  A call for help needs no generator. -/
def answer (c : Call) (outside : Outside σ) (v : Session σ) : Service.Answer × Session σ :=
  match c with
  | .roll text =>
    let (a, s) := Service.roll g source text outside.stamp (v.generator ofSeed outside.system)
    (a, v.keep s)
  | .help => (⟨.help Service.helpText, []⟩, v)

/-- Answer calls in order. -/
def run : List Call → (Nat → Outside σ) → Session σ → List Service.Answer × Session σ
  | [], _, v => ([], v)
  | c :: cs, outside, v =>
    let (a, v) := answer g ofSeed source c (outside 0) v
    let (as, v) := run cs (fun i => outside (i + 1)) v
    (a :: as, v)

end
end Session
end DiceRoller
