namespace ShaderConversion.Spirv

def wordBytes (w : UInt32) : List UInt8 :=
  [w.toUInt8, (w >>> 8).toUInt8, (w >>> 16).toUInt8, (w >>> 24).toUInt8]

def word (a b c d : UInt8) : UInt32 :=
  a.toUInt32 ||| (b.toUInt32 <<< 8) ||| (c.toUInt32 <<< 16) ||| (d.toUInt32 <<< 24)

def bytesOfWords (words : List UInt32) : List UInt8 := words.flatMap wordBytes

def wordsOnto (done : List UInt32) : List UInt8 → List UInt32
  | a :: b :: c :: d :: rest => wordsOnto (word a b c d :: done) rest
  | _ => done.reverse

def wordsOfBytes (bytes : List UInt8) : List UInt32 := wordsOnto [] bytes

end ShaderConversion.Spirv
