/-!
# A permuted congruential generator and its seeding

The simulator draws its random numbers from a 128-bit linear congruential generator whose 64-bit
outputs are permuted by an xor-fold and a data-dependent rotation (PCG, variant XSL-RR).

An integer seed does not set the state directly: it is first spread over a pool of four 32-bit
words by a hash (`seedPool`), which mixes every word into every other so that nearby seeds give
unrelated states, and the pool is then stretched into the 128-bit starting state and the
128-bit increment (`stretch`). `Pcg.ofSeed` follows the generator's own seeding routine from
there: a zero state, one step, the starting state added, one more step.

All arithmetic is on natural numbers reduced modulo `2^32`, `2^64` or `2^128`, so every step is a
plain total function.
-/
namespace Lighthouse.Random

/-- Reduction modulo `2^32`. -/
def mask32 (n : Nat) : Nat := n % Nat.pow 2 32

/-- The first multiplier of the pool hash, and its starting constant. -/
def hashMultA : Nat := 0x931e8875

/-- The starting constant of the hash that fills the pool. -/
def hashInitA : Nat := 0x43b0d7e5

/-- The multiplier of the hash that reads the pool out. -/
def hashMultB : Nat := 0x58f38ded

/-- The starting constant of the hash that reads the pool out. -/
def hashInitB : Nat := 0x8b51f9dd

/-- One hashed word and the hash constant advanced past it. -/
def hashWord (mult : Nat) (value hc : Nat) : Nat × Nat :=
  let v := mask32 (value ^^^ hc)
  let hc := mask32 (hc * mult)
  let v := mask32 (v * hc)
  (v ^^^ (v >>> 16), hc)

/-- Two pool words combined so that either changes the result. -/
def mixWords (x y : Nat) : Nat :=
  let r := mask32 (0xca01f9dd * x + Nat.pow 2 32 * Nat.pow 2 32 - mask32 (0x4973f715 * y))
  r ^^^ (r >>> 16)

/-- The 32-bit words of a natural number, least significant first; zero is one word. -/
def seedWords (seed : Nat) : List Nat :=
  if seed < Nat.pow 2 32 then [seed]
  else mask32 seed :: seedWords (seed / Nat.pow 2 32)
termination_by seed
decreasing_by
  have e : Nat.pow 2 32 = 4294967296 := rfl
  exact Nat.div_lt_self (by simp only [e] at *; omega) (by decide)

/-- The pool of four words made from the words of a seed: each slot takes the hash of its word
(of zero past the end), every slot is mixed with the hash of every other, and words beyond the
fourth are mixed into every slot. -/
def seedPool (words : List Nat) : Array Nat :=
  let step (acc : Array Nat × Nat) (w : Nat) : Nat × (Array Nat × Nat) :=
    let (v, hc) := hashWord hashMultA w acc.2
    (v, (acc.1, hc))
  let (pool, hc) := (List.range 4).foldl (fun (acc : Array Nat × Nat) i =>
    let (v, acc) := step acc (words.getD i 0)
    (acc.1.push v, acc.2)) (#[], hashInitA)
  let pairs := (List.range 4).flatMap fun s =>
    ((List.range 4).filter (· != s)).map fun d => (s, d)
  let (pool, hc) := pairs.foldl (fun (acc : Array Nat × Nat) (s, d) =>
    let (h, hc) := hashWord hashMultA (acc.1.getD s 0) acc.2
    (acc.1.modify d (mixWords · h), hc)) (pool, hc)
  let (pool, _) := (words.drop 4).foldl (fun (acc : Array Nat × Nat) w =>
    (List.range 4).foldl (fun (acc : Array Nat × Nat) d =>
      let (h, hc) := hashWord hashMultA w acc.2
      (acc.1.modify d (mixWords · h), hc)) acc) (pool, hc)
  pool

/-- `n` 32-bit words read out of a pool, cycling through it. -/
def poolWords (pool : Array Nat) (n : Nat) : List Nat :=
  let (ws, _) := (List.range n).foldl (fun (acc : List Nat × Nat) i =>
    let (v, hc) := hashWord hashMultB (pool.getD (i % pool.size) 0) acc.2
    (acc.1 ++ [v], hc)) ([], hashInitB)
  ws

/-- `n` 64-bit words read out of a pool, each from two 32-bit words, low half first. -/
def stretch (pool : Array Nat) (n : Nat) : List Nat :=
  let ws := poolWords pool (2 * n)
  (List.range n).map fun i => ws.getD (2 * i) 0 + Nat.pow 2 32 * ws.getD (2 * i + 1) 0

/-- The multiplier of the 128-bit congruential step. -/
def pcgMultiplier : Nat := 2549297995355413924 * Nat.pow 2 64 + 4865540595714422341

/-- A generator: its 128-bit state and odd increment. -/
structure Pcg where
  state : Nat
  inc : Nat
  deriving Inhabited

namespace Pcg

def step (g : Pcg) : Pcg := { g with state := (g.state * pcgMultiplier + g.inc) % Nat.pow 2 128 }

/-- The generator for a state and a stream selector, as the generator's seeding sets them. -/
def ofParts (initState initSeq : Nat) : Pcg :=
  let g := step ⟨0, (2 * initSeq + 1) % Nat.pow 2 128⟩
  step { g with state := (g.state + initState) % Nat.pow 2 128 }

def ofSeed (seed : Nat) : Pcg :=
  let v := stretch (seedPool (seedWords seed)) 4
  ofParts (v.getD 0 0 * Nat.pow 2 64 + v.getD 1 0) (v.getD 2 0 * Nat.pow 2 64 + v.getD 3 0)

/-- The 64-bit output of a state: the halves folded by xor, rotated right by the top six
bits. -/
def output (state : Nat) : Nat :=
  let v := (state / Nat.pow 2 64 ^^^ state) % Nat.pow 2 64
  let rot := state / Nat.pow 2 122
  (v >>> rot ||| (v <<< ((64 - rot) % 64))) % Nat.pow 2 64

def next (g : Pcg) : Nat × Pcg :=
  let g := g.step
  (output g.state, g)

/-- The next double in `[0, 1)`: the top 53 bits of a word, scaled. -/
def nextDouble (g : Pcg) : Float × Pcg :=
  let (w, g) := g.next
  (Float.ofNat (w >>> 11) * (1.0 / 9007199254740992.0), g)

end Pcg

end Lighthouse.Random
