import PluggableHost.Crypto.Sha2

namespace PluggableHost.Crypto

open PluggableHost.Os

/-!
# Public keys from private keys

A public key is a multiple of a fixed point of a curve over a prime field. Two
families of curves are used: those in Weierstrass form with points in Jacobian
coordinates, and the twisted Edwards curve of Ed25519.
-/

/-- A power, by squares, in the remainders of a modulus. -/
def powerMod (base exponent modulus : Nat) : Nat :=
  ((Nat.toDigits 2 exponent).foldl (fun power digit =>
    let square := power * power % modulus
    if digit = '1' then square * base % modulus else square) 1)

/-- The inverse modulo a prime. -/
def inverseMod (value prime : Nat) : Nat := powerMod (value % prime) (prime - 2) prime

/-- A multiple of something that can be doubled and added. -/
def multiple {α : Type} (double : α → α) (add : α → α → α) (zero point : α) (count : Nat) : α :=
  (Nat.toDigits 2 count).foldl (fun sum digit =>
    let twice := double sum
    if digit = '1' then add twice point else twice) zero

/-- A curve `y² = x³ - 3x + b` and a point on it whose multiples are used. -/
structure Weierstrass where
  name : Bytes
  prime : Nat
  order : Nat
  baseX : Nat
  baseY : Nat

/-- A point as `(x / z², y / z³)`; the neutral one has no `z`. -/
structure Jacobian where
  x : Nat
  y : Nat
  z : Nat

namespace Weierstrass

/-- The difference in the field of the curve. -/
def minus (curve : Weierstrass) (left right : Nat) : Nat :=
  (left + curve.prime - right % curve.prime) % curve.prime

/-- A point added to itself. -/
def double (curve : Weierstrass) (point : Jacobian) : Jacobian :=
  let p := curve.prime
  let squareZ := point.z * point.z % p
  let squareY := point.y * point.y % p
  let beta := point.x * squareY % p
  let alpha := 3 * (curve.minus point.x squareZ * (point.x + squareZ)) % p
  let x := curve.minus (alpha * alpha) (8 * beta)
  let y := curve.minus (alpha * curve.minus (4 * beta) x) (8 * squareY * squareY)
  ⟨x, y, 2 * point.y * point.z % p⟩

/-- The sum of two points. -/
def add (curve : Weierstrass) (left right : Jacobian) : Jacobian :=
  let p := curve.prime
  if left.z = 0 then right
  else if right.z = 0 then left
  else
    let leftZ := left.z * left.z % p
    let rightZ := right.z * right.z % p
    let leftX := left.x * rightZ % p
    let rightX := right.x * leftZ % p
    let leftY := left.y * right.z % p * rightZ % p
    let rightY := right.y * left.z % p * leftZ % p
    let run := curve.minus rightX leftX
    let rise := curve.minus rightY leftY
    if run = 0 then if rise = 0 then curve.double left else ⟨1, 1, 0⟩
    else
      let square := run * run % p
      let cube := square * run % p
      let middle := leftX * square % p
      let x := curve.minus (curve.minus (rise * rise) cube) (2 * middle)
      let y := curve.minus (rise * curve.minus middle x) (leftY * cube)
      ⟨x, y, left.z * right.z % p * run % p⟩

/-- A multiple of the base point, as its two coordinates. -/
def publicPoint (curve : Weierstrass) (secret : Nat) : Nat × Nat :=
  let point := multiple curve.double curve.add ⟨1, 1, 0⟩ ⟨curve.baseX, curve.baseY, 1⟩ secret
  let inverse := inverseMod point.z curve.prime
  let square := inverse * inverse % curve.prime
  (point.x * square % curve.prime, point.y * square % curve.prime * inverse % curve.prime)

/-- The number of bytes that a coordinate takes. -/
def width (curve : Weierstrass) : Nat := (curve.prime.log2 + 8) / 8

/-- A point as bytes, with both coordinates. -/
def pointBytes (curve : Weierstrass) (point : Nat × Nat) : Bytes :=
  0x04 :: bytesOf curve.width point.1 ++ bytesOf curve.width point.2

/-- A point as bytes, with one coordinate and the parity of the other. -/
def shortPointBytes (curve : Weierstrass) (point : Nat × Nat) : Bytes :=
  (if point.2 % 2 = 0 then 0x02 else 0x03) :: bytesOf curve.width point.1

end Weierstrass

/-- The curve P-256. -/
def p256 : Weierstrass where
  name := [0x2a, 0x86, 0x48, 0xce, 0x3d, 0x03, 0x01, 0x07]
  prime := Nat.pow 2 256 - Nat.pow 2 224 + Nat.pow 2 192 + Nat.pow 2 96 - 1
  order := 0xffffffff00000000ffffffffffffffffbce6faada7179e84f3b9cac2fc632551
  baseX := 0x6b17d1f2e12c4247f8bce6e563a440f277037d812deb33a0f4a13945d898c296
  baseY := 0x4fe342e2fe1a7f9b8ee7eb4a7c0f9e162bce33576b315ececbb6406837bf51f5

/-- The curve P-384. -/
def p384 : Weierstrass where
  name := [0x2b, 0x81, 0x04, 0x00, 0x22]
  prime := Nat.pow 2 384 - Nat.pow 2 128 - Nat.pow 2 96 + Nat.pow 2 32 - 1
  order := 0xffffffffffffffffffffffffffffffffffffffffffffffffc7634d81f4372ddf581a0db248b0a77aecec196accc52973
  baseX := 0xaa87ca22be8b05378eb1c71ef320ad746e1d3b628ba79b9859f741e082542a385502f25dbf55296c3a545e3872760ab7
  baseY := 0x3617de4a96262c6f5d9e98bf9292dc29f8f41dbd289a147ce9da3113b5f0b8c00a60b1ce1d7e819d7a431d7c90ea0e5f

/-- The curve P-521. -/
def p521 : Weierstrass where
  name := [0x2b, 0x81, 0x04, 0x00, 0x23]
  prime := Nat.pow 2 521 - 1
  order := 0x01fffffffffffffffffffffffffffffffffffffffffffffffffffffffffffffffffa51868783bf2f966b7fcc0148f709a5d03bb5c9b8899c47aebb6fb71e91386409
  baseX := 0xc6858e06b70404e9cd9e3ecb662395b4429c648139053fb521f828af606b4d3dbaa14b5e77efe75928fe1dc127a2ffa8de3348b3c1856a429bf97e7e31c2e5bd66
  baseY := 0x11839296a789a3bc0045c8a5fb42c7d1bd998f54449579b446817afbd17273e662c97ee72995ef42640c550b9013fad0761353c7086a272c24088be94769fd16650

/-- The curves in Weierstrass form, in the order in which keys are tried on them. -/
def weierstrassCurves : List Weierstrass := [p256, p384, p521]

/-- The prime of the field of the Edwards curve. -/
def edwardsPrime : Nat := Nat.pow 2 255 - 19

/-- A point as `(x / z, y / z)` with `t = x y / z`. -/
structure Extended where
  x : Nat
  y : Nat
  z : Nat
  t : Nat

/-- The constant of the curve, `-121665 / 121666`. -/
def edwardsConstant : Nat :=
  (edwardsPrime - 121665) * inverseMod 121666 edwardsPrime % edwardsPrime

/-- The sum of two points, also of equal ones. -/
def addEdwards (left right : Extended) : Extended :=
  let p := edwardsPrime
  let a := (left.y + p - left.x) * (right.y + p - right.x) % p
  let b := (left.y + left.x) * (right.y + right.x) % p
  let c := left.t * 2 * edwardsConstant % p * right.t % p
  let d := left.z * 2 * right.z % p
  let e := b + p - a
  let f := d + p - c
  let g := d + c
  let h := b + a
  ⟨e * f % p, g * h % p, f * g % p, e * h % p⟩

/-- The point whose multiples are used. -/
def edwardsBase : Extended :=
  let y := 4 * inverseMod 5 edwardsPrime % edwardsPrime
  let x := 15112221349535400772501151409588531511454012693041857206046113283949847762202
  ⟨x, y, 1, x * y % edwardsPrime⟩

/--
The public key of an Ed25519 seed, for a number with its three lowest bits and its
highest cleared and the next one set.
-/
def edwardsPublic (seed : Bytes) : Bytes :=
  let half := (sha512.digest seed).take 32
  let number := bytesValue half.reverse % Nat.pow 2 254 / 8 * 8 + Nat.pow 2 254
  let double (point : Extended) : Extended := addEdwards point point
  let point := multiple double addEdwards ⟨0, 1, 1, 0⟩ edwardsBase number
  let inverse := inverseMod point.z edwardsPrime
  let x := point.x * inverse % edwardsPrime
  let y := point.y * inverse % edwardsPrime
  (bytesOf 32 (y + x % 2 * Nat.pow 2 255)).reverse

end PluggableHost.Crypto
