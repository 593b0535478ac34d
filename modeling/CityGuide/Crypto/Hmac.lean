import CityGuide.Crypto.Sha256

namespace CityGuide.Crypto

def blockKey (key : Bytes) : Bytes :=
  let k := if key.length > 64 then Sha256.digest key else key
  k ++ zeros (64 - k.length)

def hmac (key message : Bytes) : Bytes :=
  let k := blockKey key
  Sha256.digest (k.map (· ^^^ 0x5c) ++ Sha256.digest (k.map (· ^^^ 0x36) ++ message))

end CityGuide.Crypto
