import Mathlib.Algebra.Module.Basic

/-!
# Elliptic-curve Diffie-Hellman

The points of a curve are a group, of which two coordinates are known as bytes. A public key is a
multiple of the generator, written as an uncompressed point, and the shared secret is the first
coordinate of the own multiple of the peer's point. Who uses the generator itself as the public
key gives the secret away: it is the first coordinate of the peer's public key
(`Curve.shared_of_generator`).
-/

namespace Ecdh

/-- A curve, its coordinates as bytes of one length. -/
structure Curve (E : Type) [AddCommGroup E] where
  generator : E
  size : Nat
  x : E → List UInt8
  y : E → List UInt8
  length_x : ∀ p, (x p).length = size
  length_y : ∀ p, (y p).length = size
  ext : ∀ p q, p ≠ 0 → q ≠ 0 → x p = x q → y p = y q → p = q

namespace Curve

variable {E : Type} [AddCommGroup E] (c : Curve E) {p q : E}

/-- A point in uncompressed form. -/
def encode (p : E) : List UInt8 := 0x04 :: (c.x p ++ c.y p)

/-- The public key of a private one. -/
def publicKey (a : Nat) : E := a • c.generator

/-- The secret that `a` shares with the owner of a public key. -/
def shared (a : Nat) (peer : E) : List UInt8 := c.x (a • peer)

@[simp] theorem length_encode (p : E) : (c.encode p).length = 1 + 2 * c.size := by
  rw [encode, List.length_cons, List.length_append, c.length_x, c.length_y]
  omega

theorem encode_injective (hp : p ≠ 0) (hq : q ≠ 0) (h : c.encode p = c.encode q) : p = q := by
  have htail : c.x p ++ c.y p = c.x q ++ c.y q := (List.cons.inj h).2
  have hlength : (c.x p).length = (c.x q).length := by rw [c.length_x, c.length_x]
  obtain ⟨hx, hy⟩ := List.append_inj htail hlength
  exact c.ext p q hp hq hx hy

/-- The bytes behind the first one, up to the middle. -/
theorem x_of_encode (p : E) :
    ((c.encode p).drop 1).take (((c.encode p).length - 1) / 2) = c.x p := by
  have hmiddle : ((c.encode p).length - 1) / 2 = (c.x p).length := by
    rw [length_encode, c.length_x]
    omega
  rw [hmiddle, encode, List.drop_succ_cons, List.drop_zero, List.take_left]

/-- Both parties have the same secret. -/
theorem shared_comm (a b : Nat) :
    c.shared a (c.publicKey b) = c.shared b (c.publicKey a) := by
  rw [shared, shared, publicKey, publicKey, smul_comm]

/-- A party whose public key is the generator. -/
theorem shared_of_generator {a : Nat} (h : c.publicKey a = c.generator) (b : Nat) :
    c.shared a (c.publicKey b) = c.x (c.publicKey b) := by
  have hpeer : a • b • c.generator = b • c.generator := by
    rw [smul_comm]
    exact congrArg (b • ·) h
  rw [shared, publicKey, hpeer]

end Curve

end Ecdh
