/-!
# Units of time

Instants are milliseconds since the start of 1970, lengths of time are milliseconds.
-/

namespace TrafficChart

def oneSecond : Int64 := 1000

def oneMinute : Int64 := 60 * oneSecond

def oneHour : Int64 := 60 * oneMinute

def oneDay : Int64 := 24 * oneHour

def oneWeek : Int64 := 7 * oneDay

end TrafficChart
