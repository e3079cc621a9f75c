/-! Places on the globe, the distance between them, and surveillance positions. -/

namespace ArrivalManager

/-- A place on the globe, in degrees north and east. -/
structure Coordinate where
  latitude : Float
  longitude : Float

/-- The radius of the earth in nautical miles. -/
def earthRadiusNm : Float := 3440.065

/-- An angle of so many degrees, in radians. -/
def radians (degrees : Float) : Float := degrees * (3.141592653589793 / 180.0)

/-- The sine of half an angle, squared. -/
def haversine (angle : Float) : Float :=
  let sine := (angle / 2.0).sin
  sine * sine

/-- The great-circle distance between two places in nautical miles. -/
def Coordinate.distanceNm (start target : Coordinate) : Float :=
  let chord := haversine (radians (target.latitude - start.latitude))
    + (radians start.latitude).cos * (radians target.latitude).cos
      * haversine (radians (target.longitude - start.longitude))
  earthRadiusNm * (2.0 * chord.sqrt.atan2 (1.0 - chord).sqrt)

/-- What surveillance last reported of a flight. -/
structure Position where
  coordinate : Coordinate
  altitudeFt : Int
  groundSpeedKt : Float

end ArrivalManager
