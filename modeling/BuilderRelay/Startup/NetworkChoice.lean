import BuilderRelay.Network
import BuilderRelay.Startup.Error

/-!
# Choosing the network

The candidates an operator gives, and the one network they select. Explicit selections exclude each
other; a custom fork version from the environment is not explicit, and comes before any name.
-/

namespace BuilderRelay

inductive Origin where
  | flag
  | environment
  deriving DecidableEq, Repr

structure CustomForkVersion where
  value : String
  origin : Origin
  deriving DecidableEq, Repr

structure NetworkSources where
  custom : Option CustomForkVersion
  mainnet : Bool
  kiln : Bool
  ropsten : Bool
  sepolia : Bool
  deriving DecidableEq, Repr

namespace NetworkSources

/-- Whether a network was selected by its name. -/
def selects (s : NetworkSources) : Network → Bool
  | .mainnet => s.mainnet
  | .kiln => s.kiln
  | .ropsten => s.ropsten
  | .sepolia => s.sepolia
  | .custom _ => false

def selectedNames (s : NetworkSources) : List Network := Network.named.filter s.selects

/-- The explicit selections, by the names of their flags. -/
def explicit (s : NetworkSources) : List String :=
  (match s.custom with
    | some ⟨_, .flag⟩ => ["genesis-fork-version"]
    | _ => []) ++ s.selectedNames.map Network.name

/-- The selected network. A conflict is reported before the custom value is looked at. -/
def select (s : NetworkSources) : Except StartupError Network :=
  if 1 < s.explicit.length then .error (.conflictingNetworks s.explicit)
  else
    match s.custom, s.selectedNames with
    | some custom, _ =>
        match ForkVersion.read (Text.trim custom.value) with
        | .ok version => .ok (.custom version)
        | .error fault => .error (.invalidForkVersion custom.value (.plain fault.message))
    | none, network :: _ => .ok network
    | none, [] => .error .noNetworkSelected

end NetworkSources

end BuilderRelay
