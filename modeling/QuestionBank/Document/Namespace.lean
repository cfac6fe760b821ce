/-!
# Namespaces

A namespace is named by a text, by custom an address on the web, of which nothing is
read. Some namespaces have customary short names.
-/

namespace QuestionBank.Document

/-- The namespace that is named by an address on the web. -/
def webSpace (address : String) : String := "http:" ++ "//" ++ address

/-- The namespace of the short name `xml`. -/
def xmlSpace : String := webSpace "www.w3.org/XML/1998/namespace"

/-- The namespace of declarations of namespaces. -/
def declarationSpace : String := webSpace "www.w3.org/2000/xmlns/"

/-- The customary short names of namespaces. -/
def customaryNames : List (String × String) :=
  [(xmlSpace, "xml"), (webSpace "www.w3.org/1999/xhtml", "html"),
   (webSpace "www.w3.org/1999/02/22-rdf-syntax-ns#", "rdf"),
   (webSpace "schemas.xmlsoap.org/wsdl/", "wsdl"), (webSpace "www.w3.org/2001/XMLSchema", "xs"),
   (webSpace "www.w3.org/2001/XMLSchema-instance", "xsi"),
   (webSpace "purl.org/dc/elements/1.1/", "dc")]

end QuestionBank.Document
