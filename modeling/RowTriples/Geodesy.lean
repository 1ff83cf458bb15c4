import RowTriples.Decimal.Binary
/-!
# Points at a distance

Points on the WGS 84 ellipsoid. The direct geodesic problem, to find the point that is reached in a
given direction after a given distance, is solved by Vincenty's iteration. A buffer ring surrounds a
point at equal steps of the direction.
-/

namespace RowTriples.Geodesy

/-- The equatorial radius in metres. -/
def equatorialRadius : Float := 6378137.0

def flattening : Float := 1.0 / 298.257223563

/-- The polar radius in metres. -/
def polarRadius : Float := equatorialRadius * (1.0 - flattening)

/-- Half a turn in radians. -/
def pi : Float := 3.14159265358979323846

/-- The change of the arc length below which the iteration ends. -/
def tolerance : Float := 1e-12

def radians (degrees : Float) : Float := degrees * (pi / 180.0)

def degrees (radians : Float) : Float := radians * (180.0 / pi)

/-- The remainder of a division by a positive whole number, which is not negative. The division is
exact; only the step from a negative remainder to a positive one may round. -/
def remainder (x : Float) (divisor : Nat) : Float :=
  if x.isFinite then
    let b := Decimal.Binary.ofFloat x
    let rest := b.numerator % (divisor * b.denominator)
    let r := (Float.ofNat rest).scaleB (min b.exponent 0)
    if !b.negative || rest == 0 then r else Float.ofNat divisor - r
  else 0.0 / 0.0

/-- A longitude between half a turn to the west and half a turn to the east. -/
def normalLongitude (longitude : Float) : Float :=
  let wrapped := remainder (longitude + 180.0) 360 - 180.0
  if wrapped == -180.0 && longitude > 0.0 then 180.0 else wrapped

/-- The arc of a geodesic on the auxiliary sphere with the functions of it that were last used. -/
structure Arc where
  sigma : Float
  sinSigma : Float
  cosSigma : Float
  cosMiddle : Float

/-- The iteration for the arc length, with a bound on its steps. -/
def arcFrom (sigma1 first bigB : Float) (sigma : Float) : (steps : Nat) → Arc
  | 0 => ⟨sigma, sigma.sin, sigma.cos, (2.0 * sigma1 + sigma).cos⟩
  | steps + 1 =>
    let cosMiddle := (2.0 * sigma1 + sigma).cos
    let sinSigma := sigma.sin
    let cosSigma := sigma.cos
    let delta := bigB * sinSigma * (cosMiddle + bigB / 4.0 *
      (cosSigma * (-1.0 + 2.0 * cosMiddle * cosMiddle) - bigB / 6.0 * cosMiddle *
        (-3.0 + 4.0 * sinSigma * sinSigma) * (-3.0 + 4.0 * cosMiddle * cosMiddle)))
    let next := first + delta
    if (next - sigma).abs < tolerance || steps == 0 then ⟨next, sinSigma, cosSigma, cosMiddle⟩
    else arcFrom sigma1 first bigB next steps

/-- The latitude and longitude, in degrees, that are reached from a point in the given direction,
clockwise from north, after a distance in metres. -/
def destination (latitude longitude azimuth distance : Float) : Float × Float :=
  let phi1 := radians latitude
  let alpha1 := radians azimuth
  let sinAlpha1 := alpha1.sin
  let cosAlpha1 := alpha1.cos
  let tanU1 := (1.0 - flattening) * phi1.tan
  let cosU1 := 1.0 / (1.0 + tanU1 * tanU1).sqrt
  let sinU1 := tanU1 * cosU1
  let sigma1 := Float.atan2 tanU1 cosAlpha1
  let sinAlpha := cosU1 * sinAlpha1
  let cosSqAlpha := 1.0 - sinAlpha * sinAlpha
  let uSq := cosSqAlpha * (equatorialRadius * equatorialRadius - polarRadius * polarRadius) /
    (polarRadius * polarRadius)
  let bigA := 1.0 + uSq / 16384.0 * (4096.0 + uSq * (-768.0 + uSq * (320.0 - 175.0 * uSq)))
  let bigB := uSq / 1024.0 * (256.0 + uSq * (-128.0 + uSq * (74.0 - 47.0 * uSq)))
  let first := distance / (polarRadius * bigA)
  let arc := arcFrom sigma1 first bigB first 200
  let tmp := sinU1 * arc.sinSigma - cosU1 * arc.cosSigma * cosAlpha1
  let phi2 := Float.atan2 (sinU1 * arc.cosSigma + cosU1 * arc.sinSigma * cosAlpha1)
    ((1.0 - flattening) * (sinAlpha * sinAlpha + tmp * tmp).sqrt)
  let lambda := Float.atan2 (arc.sinSigma * sinAlpha1)
    (cosU1 * arc.cosSigma - sinU1 * arc.sinSigma * cosAlpha1)
  let c := flattening / 16.0 * cosSqAlpha * (4.0 + flattening * (4.0 - 3.0 * cosSqAlpha))
  let bigL := lambda - (1.0 - c) * flattening * sinAlpha * (arc.sigma + c * arc.sinSigma *
    (arc.cosMiddle + c * arc.cosSigma * (-1.0 + 2.0 * arc.cosMiddle * arc.cosMiddle)))
  (degrees phi2, normalLongitude (longitude + degrees bigL))

/-- The closed ring of longitudes and latitudes around a point. The vertices lie at equal steps of
the direction and run from the last step back to north; the first one is repeated at the end. -/
def bufferRing (latitude longitude : Float) (vertices : Nat) (radius : Float) :
    List (Float × Float) :=
  let step := 360.0 / Float.ofNat vertices
  let ring := (List.range vertices).reverse.map fun i =>
    let (lat, lon) := destination latitude longitude (step * Float.ofNat i) radius
    (lon, lat)
  ring ++ ring.take 1

end RowTriples.Geodesy
