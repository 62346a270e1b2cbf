import Mathlib

/-!
# The runtime's precompile set: `used_addresses` against the dispatch of `execute`

Source: `src/runtime/selendra/src/constants.rs`, lines 147-216 (`mod precompiles`).

`FrontierPrecompiles` answers two questions about an EVM address: `is_precompile`, which looks
the address up in `used_addresses()`, and `execute`, which dispatches it to a precompile by a
chain of guarded match arms and returns `None` for every other address. The two lists are
written separately.

* dispatch — whatever the input, gas, context and staticness, `execute` returns `Some` exactly
  at the addresses of its arms, `hash(n)` for `n` in `1..=9`, `1024` and `1026`
  (`execute_isSome_iff`); `is_precompile` holds exactly at `used_addresses()`, `hash(n)` for
  `n` in `1..=5`, `1024` and `1025` (`isPrecompile_iff`).
* the mismatch — the two disagree exactly at `hash(n)` for `n` in `6, 7, 8, 9, 1025, 1026`
  (`isPrecompile_ne_execute_iff`): four Ethereum precompiles and `ECRecoverPublicKey` are
  executed but not reported, and `hash(1025)` is reported but executes nothing.

The precompiles' own code (`pallet_evm_precompile_*`) is not under `src/`: what a selected
precompile returns is a parameter. An `H160` is `BitVec 160`, the big-endian number of its
twenty bytes, so `H160::from_low_u64_be(a)` is `a` itself.
-/

set_option autoImplicit false

namespace SelendraChain.Precompiles

abbrev H160 := BitVec 160

/-- `H160::from_low_u64_be(a)`: twelve zero bytes, then the eight bytes of `a`, big-endian. -/
def hash (a : UInt64) : H160 := BitVec.ofNat 160 a.toNat

/-- The precompiles `execute` can select. -/
inductive Precompile where
  | ecRecover
  | sha256
  | ripemd160
  | modexp
  | identity
  | bn128Add
  | bn128Mul
  | bn128Pairing
  | blake2F
  | sha3FIPS256
  | ecRecoverPublicKey
  deriving DecidableEq, Repr

/-- `pallet_evm::Context`. -/
structure Context where
  address : H160
  caller : H160
  apparentValue : Nat
  deriving DecidableEq, Repr

def usedAddresses : List H160 :=
  [1, 2, 3, 4, 5, 1024, 1025].map hash

section Dispatch

variable {PrecompileResult : Type}
  (run : Precompile → List UInt8 → Option UInt64 → Context → Bool → PrecompileResult)

/-- The guarded arms of `match address`, in the source's order; `run p` is
`P::execute(input, target_gas, context, is_static)` for the precompile `p`. -/
def execute (address : H160) (input : List UInt8) (targetGas : Option UInt64)
    (context : Context) (isStatic : Bool) : Option PrecompileResult :=
  if address = hash 1 then some (run .ecRecover input targetGas context isStatic)
  else if address = hash 2 then some (run .sha256 input targetGas context isStatic)
  else if address = hash 3 then some (run .ripemd160 input targetGas context isStatic)
  else if address = hash 5 then some (run .modexp input targetGas context isStatic)
  else if address = hash 4 then some (run .identity input targetGas context isStatic)
  else if address = hash 6 then some (run .bn128Add input targetGas context isStatic)
  else if address = hash 7 then some (run .bn128Mul input targetGas context isStatic)
  else if address = hash 8 then some (run .bn128Pairing input targetGas context isStatic)
  else if address = hash 9 then some (run .blake2F input targetGas context isStatic)
  else if address = hash 1024 then some (run .sha3FIPS256 input targetGas context isStatic)
  else if address = hash 1026 then
    some (run .ecRecoverPublicKey input targetGas context isStatic)
  else none

def isPrecompile (address : H160) : Bool :=
  usedAddresses.contains address

end Dispatch

section Agreement

variable {PrecompileResult : Type}
  (run : Precompile → List UInt8 → Option UInt64 → Context → Bool → PrecompileResult)
  (input : List UInt8) (targetGas : Option UInt64) (context : Context) (isStatic : Bool)

/-- `execute` returns `Some` exactly at the addresses of its arms, whatever else it is given. -/
theorem execute_isSome_iff (address : H160) :
    (execute run address input targetGas context isStatic).isSome = true ↔
      address ∈ [1, 2, 3, 5, 4, 6, 7, 8, 9, 1024, 1026].map hash := by
  simp only [List.map_cons, List.map_nil, List.mem_cons, List.not_mem_nil, or_false]
  constructor
  · intro dispatched
    by_contra! missing
    obtain ⟨h1, h2, h3, h5, h4, h6, h7, h8, h9, h1024, h1026⟩ := missing
    rw [execute, if_neg h1, if_neg h2, if_neg h3, if_neg h5, if_neg h4, if_neg h6, if_neg h7,
      if_neg h8, if_neg h9, if_neg h1024, if_neg h1026] at dispatched
    cases dispatched
  · rintro (rfl | rfl | rfl | rfl | rfl | rfl | rfl | rfl | rfl | rfl | rfl) <;> rfl

theorem isPrecompile_iff (address : H160) :
    isPrecompile address = true ↔ address ∈ [1, 2, 3, 4, 5, 1024, 1025].map hash := by
  simp [isPrecompile, usedAddresses]

/-- `is_precompile(a)` and `execute(a, ..).is_some()` disagree exactly at six addresses:
`hash(6)` to `hash(9)` and `hash(1026)` are executed but not in `used_addresses()`, and
`hash(1025)` is in `used_addresses()` but has no arm. Both sides are decided on the twelve
addresses either list names, and both are false everywhere else. -/
theorem isPrecompile_ne_execute_iff (address : H160) :
    isPrecompile address ≠ (execute run address input targetGas context isStatic).isSome ↔
      address ∈ [6, 7, 8, 9, 1025, 1026].map hash := by
  rw [ne_eq, Bool.eq_iff_iff, isPrecompile_iff, execute_isSome_iff]
  by_cases listed : address ∈ [1, 2, 3, 4, 5, 6, 7, 8, 9, 1024, 1025, 1026].map hash
  · simp only [List.map_cons, List.map_nil, List.mem_cons, List.not_mem_nil, or_false] at listed
    rcases listed with rfl | rfl | rfl | rfl | rfl | rfl | rfl | rfl | rfl | rfl | rfl | rfl <;>
      decide
  · simp only [List.map_cons, List.map_nil, List.mem_cons, List.not_mem_nil, or_false,
      not_or] at listed
    obtain ⟨h1, h2, h3, h4, h5, h6, h7, h8, h9, h1024, h1025, h1026⟩ := listed
    simp only [List.map_cons, List.map_nil, List.mem_cons, List.not_mem_nil, h1, h2, h3, h4, h5,
      h6, h7, h8, h9, h1024, h1025, h1026, or_self, iff_self, not_true]

end Agreement

end SelendraChain.Precompiles
