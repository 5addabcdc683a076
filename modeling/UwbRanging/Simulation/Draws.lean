namespace UwbRanging

-- The random values that one timestamp of a simulated radio takes.
structure Draws where
  -- deviates of the standard normal distribution
  jitter : Float := 0.0
  spread : Float := 0.0
  -- a number from 0 to below 1 that decides whether the report gets lost
  chance : Float := 0.5
  -- readings of a simulated receiver, above the least that each can have
  quality : Fin 31 := ⟨0, by decide⟩
  noise : Fin 20 := ⟨0, by decide⟩
  firstPath : Fin 20 := ⟨0, by decide⟩
  temperature : Fin 100 := ⟨0, by decide⟩
  voltage : Fin 40 := ⟨0, by decide⟩
  deriving Inhabited

namespace Draws

-- A number from 0 to below 1.
def unit (gen : StdGen) : Float × StdGen :=
  let (n, gen) := randNat gen 0 4294967295
  (Float.ofNat n / 4294967296.0, gen)

-- A deviate of the standard normal distribution, from two uniform ones.
def normal (gen : StdGen) : Float × StdGen :=
  let (u, gen) := unit gen
  let (v, gen) := unit gen
  (Float.sqrt (-2.0 * Float.log (1.0 - u)) * Float.cos (6.283185307179586 * v), gen)

-- A number from 0 to `most`.
def upTo (most : Nat) (gen : StdGen) : Fin (most + 1) × StdGen :=
  let (k, gen) := randNat gen 0 most
  (⟨min k most, Nat.lt_succ_of_le (Nat.min_le_right k most)⟩, gen)

def next (gen : StdGen) : Draws × StdGen :=
  let (jitter, gen) := normal gen
  let (spread, gen) := normal gen
  let (chance, gen) := unit gen
  let (quality, gen) := upTo 30 gen
  let (noise, gen) := upTo 19 gen
  let (firstPath, gen) := upTo 19 gen
  let (temperature, gen) := upTo 99 gen
  let (voltage, gen) := upTo 39 gen
  ({ jitter, spread, chance, quality, noise, firstPath, temperature, voltage }, gen)

-- The values for `count` timestamps.
def take : (count : Nat) → StdGen → List Draws × StdGen
  | 0, gen => ([], gen)
  | count + 1, gen =>
    let (draws, gen) := next gen
    let (rest, gen) := take count gen
    (draws :: rest, gen)

end Draws

end UwbRanging
