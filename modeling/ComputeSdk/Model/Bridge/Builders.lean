import ComputeSdk.Model.Bridge.Http

/-! # Setters and builders of requests

The setters that pass no error slot, and for every setter the builder that moves the request
out of itself. -/

namespace ComputeSdk

open Shared

variable (F : Crates)

namespace Sys.Request

def setBody (body : HostBody) : F.Request → F.Request := F.setBody body

def setBodyOctetStream (body : List UInt8) : F.Request → F.Request := F.setBodyOctetStream body

def setContentType (mime : List UInt8) (req : F.Request) : Except Abort F.Request := do
  let mime ← expect "Invalid UTF-8" (F.toStr mime)
  let mime ← expect "Invalid MIME type" (F.parseMime mime)
  pure (F.setContentType mime req)

def setMethod (method : Method) : F.Request → F.Request := F.setMethod (F.ofMethod method)

def setVersion (version : Version) : F.Request → F.Request := F.setVersion version

def setPass (pass : Bool) : F.Request → F.Request := F.setPass pass

def setTtl (ttl : UInt32) : F.Request → F.Request := F.setTtl ttl

def setStaleWhileRevalidate (swr : UInt32) : F.Request → F.Request :=
  F.setStaleWhileRevalidate swr

def setPci (pci : Bool) : F.Request → F.Request := F.setPci pci

def setAutoDecompressGzip (gzip : Bool) : F.Request → F.Request := F.setAutoDecompressGzip gzip

def setCacheKey (key : List UInt8) : F.Request → F.Request := F.setCacheKey key

end Sys.Request

namespace Http.Request

/-! ## Setters -/

/-- `set_body`, once its parameter has been constructed. -/
def setBody (body : Body) (req : F.Request) : Except Abort F.Request :=
  body.flush.map fun body => Sys.Request.setBody F body.bod req

def setBodyOctetStream (body : List UInt8) : F.Request → F.Request :=
  Sys.Request.setBodyOctetStream F body

def setContentType (mime : List UInt8) : F.Request → Except Abort F.Request :=
  Sys.Request.setContentType F mime

def setMethod (method : Method) : F.Request → F.Request := Sys.Request.setMethod F method

def setVersion (version : Version) : F.Request → F.Request := Sys.Request.setVersion F version

def setPass (pass : Bool) : F.Request → F.Request := Sys.Request.setPass F pass

def setTtl (ttl : UInt32) : F.Request → F.Request := Sys.Request.setTtl F ttl

def setStaleWhileRevalidate (swr : UInt32) : F.Request → F.Request :=
  Sys.Request.setStaleWhileRevalidate F swr

def setPci (pci : Bool) : F.Request → F.Request := Sys.Request.setPci F pci

def setAutoDecompressGzip (gzip : Bool) : F.Request → F.Request :=
  Sys.Request.setAutoDecompressGzip F gzip

/-- `set_cache_key(std::string_view)` copies the bytes of the key. -/
def setCacheKeyStr (key : List UInt8) : F.Request → F.Request := Sys.Request.setCacheKey F key

def setCacheKey (key : List UInt8) : F.Request → F.Request := Sys.Request.setCacheKey F key

/-! ## Builders -/

/-- What a builder returns: an error, or the request it moved out. -/
abbrev Built := Except Abort (Except (RawPtr FastlyError) F.Request)

/-- `.map([this]() { return std::move(*this); })`. -/
def thenMove {F : Crates} (set : Expected FastlyError Unit F.Request) : Built F :=
  set.map fun p => p.1.map fun _ => p.2

/-- `with_body` moves its parameter on to `set_body`. -/
def withBody (body : Body) (req : F.Request) : Except Abort F.Request :=
  body.move.bind fun body => setBody F body req

def withBodyTextPlain (body : List UInt8) (slots : Slots FastlyError Unit) (req : F.Request) :
    Built F :=
  thenMove (setBodyTextPlain F body slots req)

def withBodyTextHtml (body : List UInt8) (slots : Slots FastlyError Unit) (req : F.Request) :
    Built F :=
  thenMove (setBodyTextHtml F body slots req)

def withBodyOctetStream (body : List UInt8) : F.Request → F.Request := setBodyOctetStream F body

def withContentType (mime : List UInt8) : F.Request → Except Abort F.Request :=
  setContentType F mime

def withHeader (name value : List UInt8) (slots : Slots FastlyError Unit) (req : F.Request) :
    Built F :=
  thenMove (appendHeader F name value slots req)

def withSetHeader (name value : List UInt8) (slots : Slots FastlyError Unit)
    (req : F.Request) : Built F :=
  thenMove (setHeader F name value slots req)

def withMethod (method : Method) : F.Request → F.Request := setMethod F method

/-- `with_method(std::string_view)`. -/
def withMethodStr (method : List UInt8) (slots : Slots FastlyError Unit) (req : F.Request) :
    Built F :=
  thenMove (setMethodStr F method slots req)

def withUrl (url : List UInt8) (slots : Slots FastlyError Unit) (req : F.Request) : Built F :=
  thenMove (setUrl F url slots req)

def withPath (path : List UInt8) (slots : Slots FastlyError Unit) (req : F.Request) : Built F :=
  thenMove (setPath F path slots req)

def withQueryString (query : List UInt8) (slots : Slots FastlyError Unit) (req : F.Request) :
    Built F :=
  thenMove (setQueryString F query slots req)

def withVersion (version : Version) : F.Request → F.Request := setVersion F version

def withPass (pass : Bool) : F.Request → F.Request := setPass F pass

/-- The conversion of an integer to `bool`. -/
def asBool (n : UInt32) : Bool := n != 0

/-- `with_ttl` calls `set_pass`. -/
def withTtl (ttl : UInt32) : F.Request → F.Request := setPass F (asBool ttl)

def withStaleWhileRevalidate (swr : UInt32) : F.Request → F.Request :=
  setStaleWhileRevalidate F swr

def withPci (pci : Bool) : F.Request → F.Request := setPci F pci

def withSurrogateKey (sk : List UInt8) (slots : Slots FastlyError Unit) (req : F.Request) :
    Built F :=
  thenMove (setSurrogateKey F sk slots req)

def withAutoDecompressGzip (gzip : Bool) : F.Request → F.Request := setAutoDecompressGzip F gzip

/-- `with_cache_key(std::string_view)`. -/
def withCacheKeyStr (key : List UInt8) : F.Request → F.Request := setCacheKeyStr F key

def withCacheKey (key : List UInt8) : F.Request → F.Request := setCacheKey F key

end Http.Request

end ComputeSdk
