import CodeExtension.Catalogue
import CodeExtension.Standard.Gb2312
import CodeExtension.Standard.JisX0208
import CodeExtension.Standard.JisX0212
import CodeExtension.Standard.KsX1001
import CodeExtension.Standard.LatinGreek

/-! The catalogue of the published tables. -/
namespace CodeExtension

def Standard.table : TableId → CodeTable
  | .jisX0208 => Standard.jisX0208
  | .jisX0212 => Standard.jisX0212
  | .ksX1001 => Standard.ksX1001
  | .gb2312 => Standard.gb2312
  | .latinGreek => Standard.latinGreek

def Catalogue.standard : Catalogue := ⟨fun id => some (Standard.table id)⟩

end CodeExtension
