/-!
The grammar of decimal literals: a sign, then a name of what is not finite, or digits with a point
among them and an exponent behind them.
-/

namespace CourierTrack.Decimal

def AreDigits (cs : List Char) : Prop := ∀ c ∈ cs, c.isDigit = true

inductive IsSign : List Char → Prop where
  | none : IsSign []
  | plus : IsSign ['+']
  | minus : IsSign ['-']

/-- Small and large letters are the same here. -/
def IsName (cs : List Char) : Prop :=
  String.ofList (cs.map Char.toLower) ∈ ["inf", "infinity", "nan"]

inductive IsSignificand : List Char → Prop where
  | whole {ds : List Char} (hds : AreDigits ds) (hsome : ds ≠ []) : IsSignificand ds
  | pointed {ds fs : List Char} (hds : AreDigits ds) (hfs : AreDigits fs)
      (hsome : ds ≠ [] ∨ fs ≠ []) : IsSignificand (ds ++ '.' :: fs)

inductive IsExponent : List Char → Prop where
  | none : IsExponent []
  | some {mark : Char} {sign ds : List Char} (hmark : mark = 'e' ∨ mark = 'E')
      (hsign : IsSign sign) (hds : AreDigits ds) (hsome : ds ≠ []) :
      IsExponent (mark :: (sign ++ ds))

inductive IsLiteral : List Char → Prop where
  | name {sign name : List Char} (hsign : IsSign sign) (hname : IsName name) :
      IsLiteral (sign ++ name)
  | number {sign significand exponent : List Char} (hsign : IsSign sign)
      (hsignificand : IsSignificand significand) (hexponent : IsExponent exponent) :
      IsLiteral (sign ++ (significand ++ exponent))

end CourierTrack.Decimal
